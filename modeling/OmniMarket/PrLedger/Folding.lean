import OmniMarket.PrLedger.Ledger

/-!
# What the folds keep

Both stores and the reconstruction fold each PR's events into its entry, so an entry is
determined by the events of its own run and PR, in the order in which they came.
-/

namespace OmniMarket.PrLedger
variable {events : List ModelPrLedgerSourceEvent} {entry : ModelPrLedgerEntry}
  {event : ModelPrLedgerSourceEvent} {times : List NonEmptyString}
  {transition : ModelPrLifecyclePhaseTransition}

/-! ## Entries -/

def foldAll (entry : Option ModelPrLedgerEntry) (events : List ModelPrLedgerSourceEvent) :
    Option ModelPrLedgerEntry :=
  events.foldl (fun held event => some (foldEvent held event)) entry

theorem foldAll_append (entry : Option ModelPrLedgerEntry)
    (before after : List ModelPrLedgerSourceEvent) :
    foldAll entry (before ++ after) = foldAll (foldAll entry before) after :=
  List.foldl_append

theorem foldAll_eq_none (folded : foldAll none events = none) : events = [] := by
  cases events using List.reverseRecOn with
  | nil => rfl
  | append_singleton before event =>
    rw [foldAll_append] at folded
    cases folded

theorem foldAll_isSome (some' : events ≠ []) : ∃ entry, foldAll none events = some entry := by
  cases folded : foldAll none events with
  | none => exact absurd (foldAll_eq_none folded) some'
  | some entry => exact ⟨entry, rfl⟩

@[elab_as_elim]
theorem foldAll_induction {motive : List ModelPrLedgerSourceEvent → ModelPrLedgerEntry → Prop}
    (kept : ∀ before event,
      (∀ earlier, foldAll none before = some earlier → motive before earlier) →
        motive (before ++ [event]) (foldEvent (foldAll none before) event))
    (folded : foldAll none events = some entry) : motive events entry := by
  induction events using List.reverseRecOn generalizing entry with
  | nil => cases folded
  | append_singleton before event ih =>
    rw [foldAll_append] at folded
    obtain rfl : foldEvent (foldAll none before) event = entry := Option.some.inj folded
    exact kept before event fun _ earlier => ih earlier

def ofRun (events : List ModelPrLedgerSourceEvent) (runId : NonEmptyString) :
    List ModelPrLedgerSourceEvent :=
  events.filter fun event => event.runId = runId

def ofKey (events : List ModelPrLedgerSourceEvent) (key : PrKey) : List ModelPrLedgerSourceEvent :=
  events.filter fun event => event.key = key

theorem mem_ofRun {runId : NonEmptyString} :
    event ∈ ofRun events runId ↔ event ∈ events ∧ event.runId = runId := by
  simp [ofRun]

theorem mem_ofKey {key : PrKey} : event ∈ ofKey events key ↔ event ∈ events ∧ event.key = key := by
  simp [ofKey]

theorem ofKey_append (before after : List ModelPrLedgerSourceEvent) (key : PrKey) :
    ofKey (before ++ after) key = ofKey before key ++ ofKey after key :=
  List.filter_append ..

theorem ofKey_own {key : PrKey} (own : event.key = key) (rest : List ModelPrLedgerSourceEvent) :
    ofKey (event :: rest) key = event :: ofKey rest key :=
  List.filter_cons_of_pos (decide_eq_true own)

theorem foldEntries_get? (events : List ModelPrLedgerSourceEvent) (key : PrKey) :
    (foldEntries events).get? key = foldAll none (ofKey events key) :=
  OrderedDict.get?_foldByKey .empty events key

theorem foldEntries_concat (events : List ModelPrLedgerSourceEvent)
    (event : ModelPrLedgerSourceEvent) :
    foldEntries (events ++ [event]) =
      (foldEntries events).set event.key
        (foldEvent ((foldEntries events).get? event.key) event) := by
  rw [foldEntries, List.foldl_append]
  rfl

theorem foldEvent_key {entry : Option ModelPrLedgerEntry}
    (held : ∀ e, entry = some e → e.key = event.key) : (foldEvent entry event).key = event.key := by
  cases entry with
  | none => rfl
  | some e => exact held e rfl

theorem foldEvent_runId {entry : Option ModelPrLedgerEntry}
    (held : ∀ e, entry = some e → e.runId = event.runId) :
    (foldEvent entry event).runId = event.runId := by
  cases entry with
  | none => rfl
  | some e => exact held e rfl

theorem foldAll_key {key : PrKey} (folded : foldAll none (ofKey events key) = some entry) :
    entry.key = key := by
  have own : ∀ event ∈ ofKey events key, event.key = key := fun event listed =>
    (mem_ofKey.1 listed).2
  generalize ofKey events key = mine at own folded
  revert own
  refine foldAll_induction ?_ folded
  intro before event kept own
  rw [List.forall_mem_append, List.forall_mem_singleton] at own
  rw [← own.2]
  refine foldEvent_key ?_
  intro e held
  exact (kept e held own.1).trans own.2.symm

theorem foldAll_lastObservedAt (folded : foldAll none events = some entry) :
    ∃ last, events.getLast? = some last ∧ entry.lastObservedAt = some last.observedAt := by
  refine foldAll_induction ?_ folded
  intro before event _
  exact ⟨event, List.getLast?_concat .., rfl⟩

/-! ## The latest time -/

theorem latestOf_concat (times : List NonEmptyString) (observedAt : NonEmptyString) :
    latestOf (times ++ [observedAt]) = some (laterOf (latestOf times) observedAt) := by
  rw [latestOf, List.foldl_append]
  rfl

theorem latestOf_eq_none (held : latestOf times = none) : times = [] := by
  cases times using List.reverseRecOn with
  | nil => rfl
  | append_singleton rest last =>
    rw [latestOf_concat] at held
    cases held

theorem latestOf_eq_some {latest : NonEmptyString} :
    latestOf times = some latest ↔ latest ∈ times ∧ ∀ time ∈ times, time.value ≤ latest.value := by
  induction times using List.reverseRecOn generalizing latest with
  | nil => simp [latestOf]
  | append_singleton before time ih =>
    rw [latestOf_concat, Option.some_inj, List.mem_append, List.mem_singleton,
      List.forall_mem_append, List.forall_mem_singleton]
    cases held : latestOf before with
    | none =>
      cases latestOf_eq_none held
      show time = latest ↔ (latest ∈ [] ∨ latest = time) ∧ _
      constructor
      · rintro rfl
        exact ⟨.inr rfl, fun _ none => absurd none List.not_mem_nil, le_refl _⟩
      · rintro ⟨none | same, -⟩
        · exact absurd none List.not_mem_nil
        · exact same.symm
    | some greatest =>
      obtain ⟨listed, bound⟩ := ih.1 held
      show (if greatest.value < time.value then time else greatest) = latest ↔ _
      split
      · next later =>
        constructor
        · rintro rfl
          exact ⟨.inr rfl, fun other among => (bound other among).trans later.le, le_refl _⟩
        · rintro ⟨among | rfl, -, above⟩
          · exact absurd ((bound latest among).trans_lt later) (not_lt.2 above)
          · rfl
      · next notLater =>
        constructor
        · rintro rfl
          exact ⟨.inl listed, bound, not_lt.1 notLater⟩
        · rintro ⟨among | rfl, above, -⟩
          · exact NonEmptyString.ext (le_antisymm (above _ listed) (bound _ among))
          · exact NonEmptyString.ext (le_antisymm (above _ listed) (not_lt.1 notLater))

theorem latestOf_perm {first second : List NonEmptyString} (same : first.Perm second) :
    latestOf first = latestOf second := by
  refine Option.ext ?_
  intro latest
  rw [latestOf_eq_some, latestOf_eq_some, same.mem_iff]
  exact and_congr_right fun _ => forall_congr' fun time => imp_congr_left same.mem_iff

theorem latestOf_part {part all : List NonEmptyString} (within : part ⊆ all) :
    latestOf part = latestOf all ↔ ∀ time ∈ all, ∃ own ∈ part, time.value ≤ own.value := by
  cases held : latestOf all with
  | none =>
    cases latestOf_eq_none held
    cases List.subset_nil.1 within
    exact iff_of_true rfl fun _ listed => absurd listed List.not_mem_nil
  | some latest =>
    obtain ⟨listed, bound⟩ := latestOf_eq_some.1 held
    rw [latestOf_eq_some]
    constructor
    · rintro ⟨own, -⟩ time among
      exact ⟨latest, own, bound time among⟩
    · intro reached
      obtain ⟨time, own, above⟩ := reached latest listed
      have same : time = latest := NonEmptyString.ext (le_antisymm (bound time (within own)) above)
      exact ⟨same ▸ own, fun other among => bound other (within among)⟩

theorem keyLe_antisymm {first second : PrKey} (below : KeyLe first second)
    (above : KeyLe second first) : first = second :=
  toLex_inj.1 (le_antisymm below above)

theorem sorted_entries {first second : List ModelPrLedgerEntry}
    (distinct : (first.map ModelPrLedgerEntry.key).Nodup)
    (distinct' : (second.map ModelPrLedgerEntry.key).Nodup)
    (same : ∀ entry, entry ∈ first ↔ entry ∈ second) :
    (first.insertionSort fun a b => KeyLe a.key b.key) =
      second.insertionSort fun a b => KeyLe a.key b.key := by
  have reordered : first.Perm second :=
    (List.perm_ext_iff_of_nodup distinct.of_map distinct'.of_map).2 same
  have transitive : IsTrans ModelPrLedgerEntry fun a b => KeyLe a.key b.key :=
    ⟨fun _ _ _ below above => le_trans (show toLex _ ≤ toLex _ from below) above⟩
  have total : Std.Total fun a b : ModelPrLedgerEntry => KeyLe a.key b.key :=
    ⟨fun a b => le_total (toLex a.key) (toLex b.key)⟩
  refine List.Perm.eq_of_pairwise ?_ (List.pairwise_insertionSort _ first)
    (List.pairwise_insertionSort _ second) ?_
  · intro a b inFirst inSecond below above
    have listed : a ∈ second := reordered.subset ((List.perm_insertionSort _ first).subset inFirst)
    have listed' : b ∈ second := (List.perm_insertionSort _ second).subset inSecond
    exact List.inj_on_of_nodup_map distinct' listed listed' (keyLe_antisymm below above)
  · exact ((List.perm_insertionSort _ first).trans reordered).trans
      (List.perm_insertionSort _ second).symm

/-! ## The ledger in memory -/

def LedgerOp.event? : LedgerOp → Option ModelPrLedgerSourceEvent
  | .apply event => some event
  | .record _ => none

def LedgerOp.transition? : LedgerOp → Option ModelPrLifecyclePhaseTransition
  | .apply _ => none
  | .record transition => some transition

section

variable (ops : List LedgerOp)

/-- The events that the operations apply, in order. -/
def applied : List ModelPrLedgerSourceEvent := ops.filterMap LedgerOp.event?

/-- The transitions that the operations record, in order; an illegal one is not recorded. -/
def recorded : List ModelPrLifecyclePhaseTransition :=
  (ops.filterMap LedgerOp.transition?).filter ModelPrLifecyclePhaseTransition.isLegal

def transitionsOf (transitions : List ModelPrLifecyclePhaseTransition) (runId : NonEmptyString) :
    List ModelPrLifecyclePhaseTransition :=
  transitions.filter fun transition => transition.runId = runId

@[simp] theorem applied_apply (event : ModelPrLedgerSourceEvent) :
    applied (ops ++ [.apply event]) = applied ops ++ [event] := by
  rw [applied, List.filterMap_append]
  rfl

@[simp] theorem applied_record (transition : ModelPrLifecyclePhaseTransition) :
    applied (ops ++ [.record transition]) = applied ops := by
  rw [applied, List.filterMap_append]
  exact List.append_nil _

@[simp] theorem recorded_apply (event : ModelPrLedgerSourceEvent) :
    recorded (ops ++ [.apply event]) = recorded ops := by
  rw [recorded, List.filterMap_append, List.filter_append]
  exact List.append_nil _

theorem recorded_legal (legal : transition.isLegal = true) :
    recorded (ops ++ [.record transition]) = recorded ops ++ [transition] := by
  rw [recorded, List.filterMap_append, List.filter_append]
  show _ ++ [transition].filter _ = _
  rw [List.filter_singleton, legal]
  rfl

theorem recorded_illegal (illegal : ¬ transition.isLegal = true) :
    recorded (ops ++ [.record transition]) = recorded ops := by
  rw [recorded, List.filterMap_append, List.filter_append]
  show _ ++ [transition].filter _ = _
  rw [List.filter_singleton, Bool.eq_false_of_not_eq_true illegal]
  exact List.append_nil _

end

namespace InMemoryPrLedgerStore

section

variable (ops : List LedgerOp)

/-- The store after the operations, from a new one. -/
def runOps : InMemoryPrLedgerStore := ops.foldl step {}

theorem runOps_concat (op : LedgerOp) : runOps (ops ++ [op]) = (runOps ops).step op := by
  rw [runOps, List.foldl_append]
  rfl

theorem runOps_runs (runId : NonEmptyString) :
    ((runOps ops).runs.get? runId).getD .empty = foldEntries (ofRun (applied ops) runId) := by
  induction ops using List.reverseRecOn with
  | nil => rfl
  | append_singleton ops op ih =>
    rw [runOps_concat]
    cases op with
    | record transition =>
      rw [applied_record, ← ih]
      show (((runOps ops).recordTransition transition).1.runs.get? runId).getD .empty = _
      rw [recordTransition]
      split <;> rfl
    | apply event =>
      rw [applied_apply, ofRun, List.filter_append, List.filter_singleton]
      show (((runOps ops).runs.set event.runId _).get? runId).getD .empty = _
      by_cases own : event.runId = runId
      · subst own
        rw [OrderedDict.get?_set_self, Option.getD_some, ih, decide_eq_true rfl, cond_true]
        exact (foldEntries_concat _ event).symm
      · rw [OrderedDict.get?_set_other (Ne.symm own), decide_eq_false own, cond_false, ih,
          List.append_nil]
        rfl

theorem runOps_lastEventAt (runId : NonEmptyString) :
    (runOps ops).lastEventAt.get? runId =
      latestOf ((ofRun (applied ops) runId).map (·.observedAt)) := by
  induction ops using List.reverseRecOn with
  | nil => rfl
  | append_singleton ops op ih =>
    rw [runOps_concat]
    cases op with
    | record transition =>
      rw [applied_record, ← ih]
      show ((runOps ops).recordTransition transition).1.lastEventAt.get? runId = _
      rw [recordTransition]
      split <;> rfl
    | apply event =>
      rw [applied_apply, ofRun, List.filter_append, List.filter_singleton]
      show ((runOps ops).lastEventAt.set event.runId _).get? runId = _
      by_cases own : event.runId = runId
      · subst own
        rw [OrderedDict.get?_set_self, ih, decide_eq_true rfl, cond_true, List.map_append]
        exact (latestOf_concat _ _).symm
      · rw [OrderedDict.get?_set_other (Ne.symm own), decide_eq_false own, cond_false, ih,
          List.append_nil]
        rfl

theorem runOps_transitions (runId : NonEmptyString) :
    ((runOps ops).transitions.get? runId).getD [] = transitionsOf (recorded ops) runId := by
  induction ops using List.reverseRecOn with
  | nil => rfl
  | append_singleton ops op ih =>
    rw [runOps_concat]
    cases op with
    | apply event =>
      rw [recorded_apply, ← ih]
      rfl
    | record transition =>
      show (((runOps ops).recordTransition transition).1.transitions.get? runId).getD [] = _
      rw [recordTransition]
      split
      · next legal =>
        rw [recorded_legal ops legal, transitionsOf, List.filter_append, List.filter_singleton]
        show (((runOps ops).transitions.set transition.runId _).get? runId).getD [] = _
        by_cases own : transition.runId = runId
        · subst own
          rw [OrderedDict.get?_set_self, Option.getD_some, ih, decide_eq_true rfl, cond_true]
          rfl
        · rw [OrderedDict.get?_set_other (Ne.symm own), decide_eq_false own, cond_false, ih,
            List.append_nil]
          rfl
      · next illegal => rw [recorded_illegal ops illegal, ih]

end

end InMemoryPrLedgerStore

def ledgerOf (runId : NonEmptyString) (events : List ModelPrLedgerSourceEvent)
    (transitions : List ModelPrLifecyclePhaseTransition) : ModelPrLedger :=
  buildLedger runId (foldEntries events).values (latestOf (events.map (·.observedAt))) transitions

theorem load_memory (ops : List LedgerOp) (runId : NonEmptyString) :
    (InMemoryPrLedgerStore.runOps ops).load runId =
      ledgerOf runId (ofRun (applied ops) runId) (transitionsOf (recorded ops) runId) := by
  rw [InMemoryPrLedgerStore.load, InMemoryPrLedgerStore.runOps_runs,
    InMemoryPrLedgerStore.runOps_lastEventAt, InMemoryPrLedgerStore.runOps_transitions]
  rfl

theorem mem_foldEntries :
    entry ∈ (foldEntries events).values ↔ foldAll none (ofKey events entry.key) = some entry := by
  rw [OrderedDict.mem_values]
  constructor
  · rintro ⟨key, found⟩
    rw [foldEntries_get?] at found
    rwa [foldAll_key found]
  · intro folded
    exact ⟨entry.key, (foldEntries_get? events entry.key).trans folded⟩

theorem foldEntries_keys (events : List ModelPrLedgerSourceEvent) :
    (foldEntries events).values.map ModelPrLedgerEntry.key = (foldEntries events).keys := by
  show ((foldEntries events).entries.map Prod.snd).map ModelPrLedgerEntry.key =
    (foldEntries events).entries.map Prod.fst
  rw [List.map_map]
  refine List.map_congr_left ?_
  rintro ⟨key, entry⟩ listed
  rw [OrderedDict.mem_entries, foldEntries_get?] at listed
  exact foldAll_key listed

theorem foldEntries_distinct (events : List ModelPrLedgerSourceEvent) :
    ((foldEntries events).values.map ModelPrLedgerEntry.key).Nodup :=
  (foldEntries_keys events).symm ▸ (foldEntries events).nodup

end OmniMarket.PrLedger
