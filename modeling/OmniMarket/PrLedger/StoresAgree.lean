import OmniMarket.PrLedger.Folding

/-!
# The two stores

The projection database holds, at the run and PR of each event applied so far, the dump of the
entry that the events of that run and PR fold to, and at the key of each transition the dump of
the last one recorded with that key. A load reads them back, so it differs from a load of the
memory store in two ways: a transition with the key of an earlier one replaces it, and the last
event's time is the latest among the last events of the PRs.
-/

namespace OmniMarket.PrLedger
variable {entry : ModelPrLedgerEntry} {key : EntryRowKey} {events : List ModelPrLedgerSourceEvent}

/-- `model_validate` gives back what `model_dump` was given. -/
structure RowCodec.RoundTrips {Row : Type} (codec : RowCodec Row) : Prop where
  entry : ∀ entry, codec.validateEntry (codec.dumpEntry entry) = some entry
  transition : ∀ transition,
    codec.validateTransition (codec.dumpTransition transition) = some transition

/-! ## Queries -/

section Query

variable {κ ν Row : Type} [DecidableEq κ]

theorem query_key (table : OrderedDict κ Row) (key : κ) :
    query table (fun other => other = key) = (table.get? key).toList := by
  obtain ⟨entries, nodup⟩ := table
  show (entries.filter fun row => decide (row.1 = key)).map Prod.snd =
    (OrderedDict.lookupEntry key entries).toList
  induction entries with
  | nil => rfl
  | cons row rest ih =>
    rw [List.map_cons, List.nodup_cons] at nodup
    rw [List.filter_cons, OrderedDict.lookupEntry]
    by_cases own : row.1 = key
    · subst own
      have others : (rest.filter fun row' => decide (row'.1 = row.1)) = [] := by
        rw [List.filter_eq_nil_iff]
        intro row' listed same
        exact nodup.1 (of_decide_eq_true same ▸ List.mem_map_of_mem listed)
      rw [if_pos (decide_eq_true rfl), if_pos rfl, others]
      rfl
    · rw [if_neg (by simpa using own), if_neg own]
      exact ih nodup.2

theorem query_mapValues (dump : ν → Row) (dict : OrderedDict κ ν) (filter : κ → Bool) :
    query (dict.mapValues dump) filter = (query dict filter).map dump := by
  show ((dict.entries.map fun entry => (entry.1, dump entry.2)).filter _).map Prod.snd = _
  rw [List.filter_map, query, List.map_map, List.map_map]
  rfl

theorem mem_query {dict : OrderedDict κ ν} {filter : κ → Bool} {value : ν} :
    value ∈ query dict filter ↔ ∃ key, filter key = true ∧ dict.get? key = some value := by
  rw [query, List.mem_map]
  constructor
  · rintro ⟨⟨key, held⟩, listed, rfl⟩
    obtain ⟨present, matching⟩ := List.mem_filter.1 listed
    exact ⟨key, matching, OrderedDict.mem_entries.1 present⟩
  · rintro ⟨key, matching, found⟩
    exact ⟨(key, value), List.mem_filter.2 ⟨OrderedDict.mem_entries.2 found, matching⟩, rfl⟩

theorem mapM_dumped {dump : ν → Row} {validate : Row → Option ν}
    (roundTrip : ∀ value, validate (dump value) = some value) (values : List ν) :
    (values.map dump).mapM validate = some values := by
  induction values with
  | nil => rfl
  | cons value rest ih =>
    rw [List.map_cons, List.mapM_cons, roundTrip, ih]
    rfl

end Query

/-! ## The tables -/

def ModelPrLedgerSourceEvent.rowKey (event : ModelPrLedgerSourceEvent) : EntryRowKey :=
  (event.runId, event.key)

/-- The entries of every run and PR. -/
def entryRows (events : List ModelPrLedgerSourceEvent) :
    OrderedDict EntryRowKey ModelPrLedgerEntry :=
  .foldByKey ModelPrLedgerSourceEvent.rowKey foldEvent .empty events

def transitionRows (transitions : List ModelPrLifecyclePhaseTransition) :
    OrderedDict TransitionRowKey ModelPrLifecyclePhaseTransition :=
  .foldByKey ModelPrLifecyclePhaseTransition.rowKey (fun _ transition => transition) .empty
    transitions

theorem entryRows_get? (events : List ModelPrLedgerSourceEvent) (runId : NonEmptyString)
    (key : PrKey) :
    (entryRows events).get? (runId, key) = foldAll none (ofKey (ofRun events runId) key) := by
  have both : (events.filter fun event => event.rowKey = (runId, key)) =
      ofKey (ofRun events runId) key := by
    rw [ofKey, ofRun, List.filter_filter]
    refine List.filter_congr ?_
    intro event _
    simp [ModelPrLedgerSourceEvent.rowKey, Bool.and_comm]
  rw [entryRows, OrderedDict.get?_foldByKey, both]
  rfl

theorem foldAll_runId {runId : NonEmptyString}
    (own : ∀ event ∈ events, event.runId = runId) (folded : foldAll none events = some entry) :
    entry.runId = runId := by
  revert own
  refine foldAll_induction ?_ folded
  intro before event kept own
  rw [List.forall_mem_append, List.forall_mem_singleton] at own
  rw [← own.2]
  refine foldEvent_runId ?_
  intro e held
  exact (kept e held own.1).trans own.2.symm

theorem entryRows_rowKey
    (found : (entryRows events).get? key = some entry) : entry.rowKey = key := by
  obtain ⟨runId, prKey⟩ := key
  rw [entryRows_get?] at found
  refine Prod.ext (foldAll_runId ?_ found) (foldAll_key found)
  intro event listed
  exact (mem_ofRun.1 (mem_ofKey.1 listed).1).2

namespace ProjectionDatabasePrLedgerStore

variable {Row : Type} {codec : RowCodec Row}

/-- The store after the operations, from empty tables. -/
def runOps (codec : RowCodec Row) (ops : List LedgerOp) : ProjectionDatabasePrLedgerStore Row :=
  ops.foldl (fun store op => store.step codec op) {}

theorem runOps_concat (ops : List LedgerOp) (op : LedgerOp) :
    runOps codec (ops ++ [op]) = (runOps codec ops).step codec op := by
  rw [runOps, List.foldl_append]
  rfl

theorem entryRows_concat (events : List ModelPrLedgerSourceEvent)
    (event : ModelPrLedgerSourceEvent) :
    entryRows (events ++ [event]) =
      (entryRows events).set event.rowKey
        (foldEvent ((entryRows events).get? event.rowKey) event) := by
  rw [entryRows, OrderedDict.foldByKey_append]
  rfl

theorem transitionRows_concat (transitions : List ModelPrLifecyclePhaseTransition)
    (transition : ModelPrLifecyclePhaseTransition) :
    transitionRows (transitions ++ [transition]) =
      (transitionRows transitions).set transition.rowKey transition := by
  rw [transitionRows, OrderedDict.foldByKey_append]
  rfl

theorem loadEntry_dumped (roundTrips : codec.RoundTrips)
    {store : ProjectionDatabasePrLedgerStore Row}
    (table : store.table = (entryRows events).mapValues codec.dumpEntry)
    (event : ModelPrLedgerSourceEvent) :
    store.loadEntry codec event.runId event.key = some ((entryRows events).get? event.rowKey) := by
  have found : query store.table (fun rowKey => rowKey = (event.runId, event.key)) =
      (((entryRows events).get? event.rowKey).map codec.dumpEntry).toList := by
    rw [query_key, table, OrderedDict.get?_mapValues]
    rfl
  rw [loadEntry, found]
  cases (entryRows events).get? event.rowKey with
  | none => rfl
  | some entry => exact congrArg (Option.map some) (roundTrips.entry entry)

theorem runOps_tables (roundTrips : codec.RoundTrips) (ops : List LedgerOp) :
    (runOps codec ops).table = (entryRows (applied ops)).mapValues codec.dumpEntry ∧
      (runOps codec ops).transitionTable =
        (transitionRows (recorded ops)).mapValues codec.dumpTransition := by
  induction ops using List.reverseRecOn with
  | nil => exact ⟨rfl, rfl⟩
  | append_singleton ops op ih =>
    obtain ⟨table, transitionTable⟩ := ih
    rw [runOps_concat]
    cases op with
    | apply event =>
      rw [applied_apply, recorded_apply, step, apply, loadEntry_dumped roundTrips table event]
      refine ⟨?_, transitionTable⟩
      have own : (foldEvent ((entryRows (applied ops)).get? event.rowKey) event).rowKey =
          event.rowKey := by
        refine Prod.ext (foldEvent_runId ?_) (foldEvent_key ?_)
        · intro entry held
          exact (Prod.mk.inj (entryRows_rowKey held)).1
        · intro entry held
          exact (Prod.mk.inj (entryRows_rowKey held)).2
      show (runOps codec ops).table.set _ _ = _
      rw [own, table, OrderedDict.mapValues_set, entryRows_concat]
    | record transition =>
      rw [applied_record, step, recordTransition]
      split
      · next legal =>
        refine ⟨table, ?_⟩
        show (runOps codec ops).transitionTable.set _ _ = _
        rw [recorded_legal ops legal, transitionTable, OrderedDict.mapValues_set,
          transitionRows_concat]
      · next illegal =>
        rw [recorded_illegal ops illegal]
        exact ⟨table, transitionTable⟩

end ProjectionDatabasePrLedgerStore

def rowsOf {κ ν : Type} [DecidableEq κ] (dict : OrderedDict (NonEmptyString × κ) ν)
    (runId : NonEmptyString) : List ν :=
  query dict fun key => key.1 = runId

theorem load_database {Row : Type} {codec : RowCodec Row} (roundTrips : codec.RoundTrips)
    (ops : List LedgerOp) (runId : NonEmptyString) :
    (ProjectionDatabasePrLedgerStore.runOps codec ops).load codec runId =
      some (buildLedger runId (rowsOf (entryRows (applied ops)) runId)
        (latestOf ((rowsOf (entryRows (applied ops)) runId).filterMap
          ModelPrLedgerEntry.lastObservedAt))
        (rowsOf (transitionRows (recorded ops)) runId)) := by
  obtain ⟨table, transitionTable⟩ :=
    ProjectionDatabasePrLedgerStore.runOps_tables roundTrips ops
  rw [ProjectionDatabasePrLedgerStore.load, table, transitionTable, query_mapValues,
    query_mapValues, mapM_dumped roundTrips.entry, mapM_dumped roundTrips.transition]
  rfl

/-! ## Agreement -/

section Agreement

variable {events : List ModelPrLedgerSourceEvent} {runId : NonEmptyString}

theorem mem_rowsOf :
    entry ∈ rowsOf (entryRows events) runId ↔
      foldAll none (ofKey (ofRun events runId) entry.key) = some entry := by
  rw [rowsOf, mem_query]
  constructor
  · rintro ⟨⟨own, key⟩, matching, found⟩
    obtain rfl : own = runId := of_decide_eq_true matching
    rw [entryRows_get?] at found
    rwa [foldAll_key found]
  · intro folded
    exact ⟨(runId, entry.key), decide_eq_true rfl, (entryRows_get? _ _ _).trans folded⟩

theorem rowsOf_distinct : ((rowsOf (entryRows events) runId).map ModelPrLedgerEntry.key).Nodup := by
  have distinct : (entryRows events).entries.Pairwise fun row row' => row.1 ≠ row'.1 :=
    List.pairwise_map.1 (entryRows events).nodup
  rw [rowsOf, query, List.map_map]
  refine List.pairwise_map.2 ((distinct.filter _).imp_of_mem ?_)
  rintro ⟨key, entry⟩ ⟨key', entry'⟩ listed listed' differ same
  obtain ⟨present, own⟩ := List.mem_filter.1 listed
  obtain ⟨present', own'⟩ := List.mem_filter.1 listed'
  have carried := entryRows_rowKey (OrderedDict.mem_entries.1 present)
  have carried' := entryRows_rowKey (OrderedDict.mem_entries.1 present')
  refine differ (Prod.ext ?_ ?_)
  · exact (of_decide_eq_true own).trans (of_decide_eq_true own').symm
  · rw [← carried, ← carried']
    exact same

theorem mem_lastTimes {time : NonEmptyString} :
    time ∈ (rowsOf (entryRows events) runId).filterMap ModelPrLedgerEntry.lastObservedAt ↔
      ∃ last, (ofKey (ofRun events runId) last.key).getLast? = some last ∧
        last.observedAt = time := by
  rw [List.mem_filterMap]
  constructor
  · rintro ⟨entry, listed, observed⟩
    obtain ⟨last, lasts, own⟩ := foldAll_lastObservedAt (mem_rowsOf.1 listed)
    have near : last.key = entry.key := (mem_ofKey.1 (List.mem_of_getLast? lasts)).2
    exact ⟨last, near ▸ lasts, Option.some.inj (own.symm.trans observed)⟩
  · rintro ⟨last, lasts, rfl⟩
    obtain ⟨entry, folded⟩ : ∃ entry, foldAll none (ofKey (ofRun events runId) last.key) =
        some entry := by
      refine foldAll_isSome ?_
      intro nothing
      rw [nothing] at lasts
      cases lasts
    obtain ⟨last', lasts', observed⟩ := foldAll_lastObservedAt folded
    obtain rfl : last' = last := Option.some.inj (lasts'.symm.trans lasts)
    have near : entry.key = last'.key := foldAll_key folded
    exact ⟨entry, mem_rowsOf.2 (near ▸ folded), observed⟩

def LastEventsLatest (events : List ModelPrLedgerSourceEvent) : Prop :=
  ∀ event ∈ events, ∃ last, (ofKey (ofRun events event.runId) last.key).getLast? = some last ∧
    event.observedAt.value ≤ last.observedAt.value

theorem lastEventAt_agrees : (∀ runId, latestOf ((rowsOf (entryRows events) runId).filterMap
        ModelPrLedgerEntry.lastObservedAt) =
      latestOf ((ofRun events runId).map (·.observedAt))) ↔ LastEventsLatest events := by
  have within (runId : NonEmptyString) :
      (rowsOf (entryRows events) runId).filterMap ModelPrLedgerEntry.lastObservedAt ⊆
        (ofRun events runId).map (·.observedAt) := by
    intro time listed
    obtain ⟨last, lasts, rfl⟩ := mem_lastTimes.1 listed
    exact List.mem_map_of_mem (mem_ofKey.1 (List.mem_of_getLast? lasts)).1
  constructor
  · intro agree event listed
    have own : event ∈ ofRun events event.runId := mem_ofRun.2 ⟨listed, rfl⟩
    obtain ⟨time, among, above⟩ := (latestOf_part (within event.runId)).1 (agree event.runId)
      event.observedAt (List.mem_map_of_mem own)
    obtain ⟨last, lasts, rfl⟩ := mem_lastTimes.1 among
    exact ⟨last, lasts, above⟩
  · intro latest runId
    refine (latestOf_part (within runId)).2 ?_
    intro time listed
    obtain ⟨event, among, rfl⟩ := List.mem_map.1 listed
    obtain ⟨present, rfl⟩ := mem_ofRun.1 among
    obtain ⟨last, lasts, above⟩ := latest event present
    exact ⟨last.observedAt, mem_lastTimes.2 ⟨last, lasts, rfl⟩, above⟩

variable {transitions : List ModelPrLifecyclePhaseTransition}

theorem transitionRows_rowKey {key : TransitionRowKey}
    {transition : ModelPrLifecyclePhaseTransition}
    (found : (transitionRows transitions).get? key = some transition) :
    transition.rowKey = key := by
  rw [transitionRows, OrderedDict.get?_foldByKey] at found
  have own : ∀ t ∈ transitions.filter fun t => t.rowKey = key, t.rowKey = key := fun t listed =>
    of_decide_eq_true (List.mem_filter.1 listed).2
  generalize (transitions.filter fun t => t.rowKey = key) = mine at own found
  cases mine using List.reverseRecOn with
  | nil => cases found
  | append_singleton before last =>
    rw [List.foldl_append] at found
    obtain rfl : last = transition := Option.some.inj found
    exact own last (List.mem_append_right _ (List.mem_singleton.2 rfl))

theorem rowsOf_apart (transitions : List ModelPrLifecyclePhaseTransition) (runId : NonEmptyString) :
    (rowsOf (transitionRows transitions) runId).Pairwise
      fun first second => first.rowKey ≠ second.rowKey := by
  have distinct : (transitionRows transitions).entries.Pairwise fun row row' => row.1 ≠ row'.1 :=
    List.pairwise_map.1 (transitionRows transitions).nodup
  refine List.pairwise_map.2 ((distinct.filter _).imp_of_mem ?_)
  rintro ⟨key, transition⟩ ⟨key', transition'⟩ listed listed' differ same
  have carried := transitionRows_rowKey (OrderedDict.mem_entries.1 (List.mem_filter.1 listed).1)
  have carried' := transitionRows_rowKey (OrderedDict.mem_entries.1 (List.mem_filter.1 listed').1)
  exact differ (carried.symm.trans (same.trans carried'))

theorem transitions_agree :
    (∀ runId, rowsOf (transitionRows transitions) runId = transitionsOf transitions runId) ↔
      (transitions.map ModelPrLifecyclePhaseTransition.rowKey).Nodup := by
  constructor
  · intro agree
    refine List.pairwise_map.2 (List.pairwise_iff_forall_sublist.2 ?_)
    -- two transitions of one key are two transitions of one run
    intro first second within same
    have oneRun : first.runId = second.runId := (Prod.mk.inj same).1
    have kept : [first, second].Sublist (transitionsOf transitions second.runId) := by
      have both : ([first, second].filter fun transition => transition.runId = second.runId) =
          [first, second] := by
        rw [List.filter_eq_self]
        intro transition listed
        rcases List.mem_pair.1 listed with rfl | rfl
        · exact decide_eq_true oneRun
        · exact decide_eq_true rfl
      exact both ▸ within.filter fun transition => transition.runId = second.runId
    have apart := rowsOf_apart transitions second.runId
    rw [agree second.runId] at apart
    exact List.pairwise_iff_forall_sublist.1 apart kept same
  · intro distinct runId
    rw [rowsOf, query, transitionRows, OrderedDict.foldByKey_distinct distinct, List.filter_map,
      List.map_map, transitionsOf]
    exact List.map_id _

/-- The two stores load the same ledger of every run exactly when no transition was recorded with
the key of an earlier one and the last event of some PR is the latest of its run. -/
theorem stores_agree_iff {Row : Type} {codec : RowCodec Row} (roundTrips : codec.RoundTrips)
    (ops : List LedgerOp) :
    (∀ runId, (ProjectionDatabasePrLedgerStore.runOps codec ops).load codec runId =
      some ((InMemoryPrLedgerStore.runOps ops).load runId)) ↔
      ((recorded ops).map ModelPrLifecyclePhaseTransition.rowKey).Nodup ∧
        LastEventsLatest (applied ops) := by
  have entries (runId : NonEmptyString) :
      ((rowsOf (entryRows (applied ops)) runId).insertionSort fun a b => KeyLe a.key b.key) =
        (foldEntries (ofRun (applied ops) runId)).values.insertionSort
          fun a b => KeyLe a.key b.key := by
    refine sorted_entries rowsOf_distinct (foldEntries_distinct _) ?_
    intro entry
    rw [mem_rowsOf, mem_foldEntries]
  rw [← transitions_agree, ← lastEventAt_agrees]
  constructor
  · intro agree
    have ledgers (runId : NonEmptyString) := Option.some.inj
      ((load_database roundTrips ops runId).symm.trans
        ((agree runId).trans (congrArg some (load_memory ops runId))))
    exact ⟨fun runId => congrArg ModelPrLedger.phaseTransitions (ledgers runId),
      fun runId => congrArg ModelPrLedger.lastEventAt (ledgers runId)⟩
  · rintro ⟨transitions, lastEventAt⟩ runId
    rw [load_database roundTrips, load_memory, ledgerOf, buildLedger, buildLedger, entries runId,
      transitions runId, lastEventAt runId]

end Agreement

/-! ## A run out of time order -/

def modelRows : RowCodec (ModelPrLedgerEntry ⊕ ModelPrLifecyclePhaseTransition) where
  dumpEntry := .inl
  validateEntry := Sum.getLeft?
  dumpTransition := .inr
  validateTransition := Sum.getRight?

theorem modelRows_roundTrips : modelRows.RoundTrips := ⟨fun _ => rfl, fun _ => rfl⟩

def nightRun : NonEmptyString := ⟨"run-2", by decide⟩

def nightEvent (observedAt : NonEmptyString) : ModelPrLedgerSourceEvent where
  kind := .rerunAttempted
  runId := nightRun
  correlationId := "c-2"
  repo := "OmniNode-ai/omnimarket"
  prNumber := 8
  orchestratorAction := .requeue
  observedAt := observedAt

def elevenOClock : NonEmptyString := ⟨"2026-06-01T23:00:00Z", by decide⟩

def tenOClock : NonEmptyString := ⟨"2026-06-01T22:00:00Z", by decide⟩

def nightTransition (recordedAt : NonEmptyString) : ModelPrLifecyclePhaseTransition where
  runId := nightRun
  correlationId := "c-2"
  fromPhase := .mergeGroup
  toPhase := .mergeGroup
  recordedAt := recordedAt

/-- A PR's event of ten o'clock that comes after its event of eleven o'clock. -/
theorem stores_disagree : ¬ ∀ runId, (ProjectionDatabasePrLedgerStore.runOps modelRows
        [.apply (nightEvent elevenOClock), .apply (nightEvent tenOClock)]).load modelRows runId =
      some ((InMemoryPrLedgerStore.runOps
        [.apply (nightEvent elevenOClock), .apply (nightEvent tenOClock)]).load runId) := by
  intro agree
  exact absurd (agree nightRun) (by decide +kernel)

def nightOps : List LedgerOp :=
  [.apply (nightEvent tenOClock), .record (nightTransition tenOClock),
    .apply (nightEvent elevenOClock), .record (nightTransition elevenOClock)]

theorem stores_agree_night :
    (ProjectionDatabasePrLedgerStore.runOps modelRows nightOps).load modelRows nightRun =
      some ((InMemoryPrLedgerStore.runOps nightOps).load nightRun) := by
  refine (stores_agree_iff modelRows_roundTrips nightOps).2 ⟨by decide +kernel, ?_⟩ nightRun
  intro event listed
  have later : (ofKey (ofRun (applied nightOps) event.runId) (nightEvent elevenOClock).key).getLast? =
      some (nightEvent elevenOClock) ∧
      event.observedAt.value ≤ (nightEvent elevenOClock).observedAt.value := by
    revert event
    decide +kernel
  exact ⟨nightEvent elevenOClock, later⟩

/-!
# Events applied twice

A projection database whose rows all validate, each to an entry with the key of its row, keeps
doing so, and an entry once there stays. So an event applied before finds an entry of its PR.
`fold_event` does not ask whether it folded the event already: it appends to the provenance,
counts a rerun attempt and overwrites what the last event left.
-/

theorem mapM_all_some {α β : Type} {probe : α → Option β} {items : List α}
    (hits : ∀ item ∈ items, ∃ hit, probe item = some hit) :
    ∃ found, items.mapM probe = some found ∧
      ∀ hit, hit ∈ found ↔ ∃ item ∈ items, probe item = some hit := by
  induction items with
  | nil => exact ⟨[], rfl, by simp⟩
  | cons head tail ih =>
    rw [List.forall_mem_cons] at hits
    obtain ⟨first, probed⟩ := hits.1
    obtain ⟨found, walked, members⟩ := ih hits.2
    refine ⟨first :: found, ?_, ?_⟩
    · rw [List.mapM_cons, probed, walked]
      rfl
    · intro hit
      rw [List.mem_cons, members, List.exists_mem_cons_iff, probed, Option.some.injEq, eq_comm]

namespace ProjectionDatabasePrLedgerStore

variable {Row : Type} {codec : RowCodec Row}

/-! ## What every operation keeps -/

structure Sound (codec : RowCodec Row) (store : ProjectionDatabasePrLedgerStore Row) : Prop where
  entry : ∀ key row, store.table.get? key = some row →
    ∃ entry, codec.validateEntry row = some entry ∧ entry.rowKey = key
  transition : ∀ key row, store.transitionTable.get? key = some row →
    ∃ transition, codec.validateTransition row = some transition

def held (codec : RowCodec Row) (store : ProjectionDatabasePrLedgerStore Row)
    (key : EntryRowKey) : Option ModelPrLedgerEntry :=
  (store.table.get? key).bind codec.validateEntry

def steps (codec : RowCodec Row) (store : ProjectionDatabasePrLedgerStore Row)
    (ops : List LedgerOp) : ProjectionDatabasePrLedgerStore Row :=
  ops.foldl (fun store op => store.step codec op) store

theorem empty_sound : Sound codec ({} : ProjectionDatabasePrLedgerStore Row) where
  entry _ _ found := by cases found
  transition _ _ found := by cases found

section Keeps

variable {store : ProjectionDatabasePrLedgerStore Row}

theorem Sound.held_rowKey (sound : store.Sound codec) (found : store.held codec key = some entry) :
    entry.rowKey = key := by
  obtain ⟨row, present, validated⟩ := Option.bind_eq_some_iff.1 found
  obtain ⟨other, validated', own⟩ := sound.entry key row present
  rw [validated] at validated'
  obtain rfl := Option.some.inj validated'
  exact own

theorem Sound.loadEntry (sound : store.Sound codec) (event : ModelPrLedgerSourceEvent) :
    store.loadEntry codec event.runId event.key = some (store.held codec event.rowKey) := by
  have found : query store.table (fun rowKey => rowKey = (event.runId, event.key)) =
      (store.table.get? event.rowKey).toList := query_key _ _
  rw [ProjectionDatabasePrLedgerStore.loadEntry, found, held]
  cases present : store.table.get? event.rowKey with
  | none => rfl
  | some row =>
    obtain ⟨entry, validated, -⟩ := sound.entry _ _ present
    show (codec.validateEntry row).map some = some (codec.validateEntry row)
    rw [validated]
    rfl

theorem Sound.apply_eq (sound : store.Sound codec) (event : ModelPrLedgerSourceEvent) :
    (foldEvent (store.held codec event.rowKey) event).rowKey = event.rowKey ∧
      store.apply codec event =
        { store with
          table := store.table.set event.rowKey
            (codec.dumpEntry (foldEvent (store.held codec event.rowKey) event)) } := by
  have own : (foldEvent (store.held codec event.rowKey) event).rowKey = event.rowKey := by
    refine Prod.ext (foldEvent_runId ?_) (foldEvent_key ?_)
    · intro entry found
      exact (Prod.mk.inj (sound.held_rowKey found)).1
    · intro entry found
      exact (Prod.mk.inj (sound.held_rowKey found)).2
  refine ⟨own, ?_⟩
  rw [apply, sound.loadEntry]
  show { store with table := store.table.set _ _ } = _
  rw [own]

section

variable (roundTrips : codec.RoundTrips) (sound : store.Sound codec)

include roundTrips sound

theorem Sound.held_apply (event : ModelPrLedgerSourceEvent) (key : EntryRowKey) :
    (store.apply codec event).held codec key =
      if key = event.rowKey then some (foldEvent (store.held codec event.rowKey) event)
      else store.held codec key := by
  rw [(sound.apply_eq event).2, held]
  split
  · next own =>
    rw [own, OrderedDict.get?_set_self]
    exact roundTrips.entry _
  · next other => rw [OrderedDict.get?_set_other other, held]

theorem Sound.apply (event : ModelPrLedgerSourceEvent) : (store.apply codec event).Sound codec := by
  obtain ⟨own, applied⟩ := sound.apply_eq event
  rw [applied]
  refine ⟨?_, sound.transition⟩
  intro key row found
  by_cases mine : key = event.rowKey
  · subst mine
    rw [OrderedDict.get?_set_self] at found
    exact ⟨_, Option.some.inj found ▸ roundTrips.entry _, own⟩
  · rw [OrderedDict.get?_set_other mine] at found
    exact sound.entry key row found

theorem Sound.recordTransition (transition : ModelPrLifecyclePhaseTransition) :
    (store.recordTransition codec transition).1.Sound codec := by
  rw [ProjectionDatabasePrLedgerStore.recordTransition]
  split
  · refine ⟨sound.entry, ?_⟩
    intro key row found
    by_cases mine : key = transition.rowKey
    · subst mine
      rw [OrderedDict.get?_set_self] at found
      exact ⟨_, Option.some.inj found ▸ roundTrips.transition _⟩
    · rw [OrderedDict.get?_set_other mine] at found
      exact sound.transition key row found
  · exact sound

end

theorem recordTransition_table (transition : ModelPrLifecyclePhaseTransition) :
    (store.recordTransition codec transition).1.table = store.table := by
  rw [recordTransition]
  split <;> rfl

section

variable (roundTrips : codec.RoundTrips) (sound : store.Sound codec)

include roundTrips sound

theorem Sound.step (op : LedgerOp) : (store.step codec op).Sound codec := by
  cases op with
  | apply event => exact sound.apply roundTrips event
  | record transition => exact sound.recordTransition roundTrips transition

theorem Sound.step_held (op : LedgerOp)
    (there : (store.held codec key).isSome) : ((store.step codec op).held codec key).isSome := by
  cases op with
  | apply event =>
    rw [ProjectionDatabasePrLedgerStore.step, sound.held_apply roundTrips]
    split
    · rfl
    · exact there
  | record transition =>
    rwa [ProjectionDatabasePrLedgerStore.step, held, recordTransition_table]

theorem steps_sound (ops : List LedgerOp) : (store.steps codec ops).Sound codec := by
  induction ops generalizing store with
  | nil => exact sound
  | cons op rest ih => exact ih (sound.step roundTrips op)

theorem steps_held (ops : List LedgerOp)
    (there : (store.held codec key).isSome) : ((store.steps codec ops).held codec key).isSome := by
  induction ops generalizing store with
  | nil => exact there
  | cons op rest ih => exact ih (sound.step roundTrips op) (sound.step_held roundTrips op there)

theorem applied_held
    {ops : List LedgerOp} {event : ModelPrLedgerSourceEvent} (applied : .apply event ∈ ops) :
    ∃ entry, (store.steps codec ops).held codec event.rowKey = some entry := by
  obtain ⟨before, after, rfl⟩ := List.append_of_mem applied
  refine Option.isSome_iff_exists.1 ?_
  have reached : (store.steps codec before).Sound codec := steps_sound roundTrips sound before
  have folded : (((store.steps codec before).apply codec event).held codec event.rowKey).isSome := by
    rw [reached.held_apply roundTrips, if_pos rfl]
    rfl
  rw [steps, List.foldl_append]
  exact steps_held roundTrips (reached.apply roundTrips event) after folded

end

/-! ## Loads -/

theorem Sound.load (sound : store.Sound codec) (runId : NonEmptyString) :
    ∃ ledger, store.load codec runId = some ledger ∧
      ∀ entry, entry ∈ ledger.entries ↔ store.held codec (runId, entry.key) = some entry := by
  obtain ⟨entries, loaded, members⟩ : ∃ entries,
      (query store.table fun key => key.1 = runId).mapM codec.validateEntry = some entries ∧
        ∀ entry, entry ∈ entries ↔ ∃ row ∈ query store.table fun key => key.1 = runId,
          codec.validateEntry row = some entry := by
    refine mapM_all_some ?_
    intro row listed
    obtain ⟨key, -, present⟩ := mem_query.1 listed
    obtain ⟨entry, validated, -⟩ := sound.entry key row present
    exact ⟨entry, validated⟩
  obtain ⟨transitions, loaded', -⟩ : ∃ transitions,
      (query store.transitionTable fun key => key.1 = runId).mapM codec.validateTransition =
        some transitions ∧ ∀ transition, transition ∈ transitions ↔
          ∃ row ∈ query store.transitionTable fun key => key.1 = runId,
            codec.validateTransition row = some transition := by
    refine mapM_all_some ?_
    intro row listed
    obtain ⟨key, -, present⟩ := mem_query.1 listed
    exact sound.transition key row present
  refine ⟨buildLedger runId entries
    (latestOf (entries.filterMap ModelPrLedgerEntry.lastObservedAt)) transitions, ?_, ?_⟩
  · rw [ProjectionDatabasePrLedgerStore.load, loaded, loaded']
    rfl
  intro entry
  rw [buildLedger, List.mem_insertionSort, members]
  constructor
  · rintro ⟨row, listed, validated⟩
    obtain ⟨⟨own, key⟩, matching, present⟩ := mem_query.1 listed
    obtain rfl : own = runId := of_decide_eq_true matching
    obtain ⟨other, validated', named⟩ := sound.entry _ _ present
    rw [validated] at validated'
    obtain rfl := Option.some.inj validated'
    obtain rfl : entry.key = key := (Prod.mk.inj named).2
    exact Option.bind_eq_some_iff.2 ⟨row, present, validated⟩
  · intro found
    obtain ⟨row, present, validated⟩ := Option.bind_eq_some_iff.1 found
    exact ⟨row, mem_query.2 ⟨_, decide_eq_true rfl, present⟩, validated⟩

/-- An event that was applied before, at once or late, never leaves the ledger as it was: the
entry of its PR has one more step of provenance, one more attempt for a rerun, and what the last
event left is the old event's. -/
theorem redelivery_changes_ledger (roundTrips : codec.RoundTrips) (sound : store.Sound codec)
    {ops : List LedgerOp} {event : ModelPrLedgerSourceEvent} (applied : .apply event ∈ ops) :
    ∃ before after entry again,
      (store.steps codec ops).load codec event.runId = some before ∧
      ((store.steps codec ops).apply codec event).load codec event.runId = some after ∧
      entry ∈ before.entries ∧ entry.key = event.key ∧
      again ∈ after.entries ∧ again.key = event.key ∧
      again.provenance = entry.provenance ++ [provenanceOf event] ∧
      again.rerunAttempts = entry.rerunAttempts + (if event.kind = .rerunAttempted then 1 else 0) ∧
      again.lastAction = some event.orchestratorAction ∧ again.lastPhase = event.phase ∧
      again.lastObservedAt = some event.observedAt ∧
      before ≠ after := by
  have reached : (store.steps codec ops).Sound codec := steps_sound roundTrips sound ops
  have later : ((store.steps codec ops).apply codec event).Sound codec :=
    reached.apply roundTrips event
  obtain ⟨entry, found⟩ := applied_held roundTrips sound applied
  have own : entry.key = event.key := (Prod.mk.inj (reached.held_rowKey found)).2
  have again : ((store.steps codec ops).apply codec event).held codec event.rowKey =
      some (foldEvent (some entry) event) := by
    rw [reached.held_apply roundTrips, if_pos rfl, found]
  have own' : (foldEvent (some entry) event).key = event.key :=
    (Prod.mk.inj (later.held_rowKey again)).2
  obtain ⟨before, loaded, members⟩ := reached.load event.runId
  obtain ⟨after, loaded', members'⟩ := later.load event.runId
  have listed : entry ∈ before.entries := (members entry).2 (own ▸ found)
  refine ⟨before, after, entry, foldEvent (some entry) event, loaded, loaded', listed, own,
    (members' _).2 (own' ▸ again), own', rfl, ?_, rfl, rfl, rfl, ?_⟩
  · show (if event.kind = .rerunAttempted then _ else _) = _
    split <;> rfl
  · rintro rfl
    -- the PR has one entry, and its provenance would be its own with one more step
    have same := (members' entry).1 listed
    rw [own] at same
    have folded : foldEvent (some entry) event = entry := Option.some.inj (again.symm.trans same)
    have longer : (entry.provenance ++ [provenanceOf event]).length = entry.provenance.length :=
      congrArg (fun held => held.provenance.length) folded
    rw [List.length_append] at longer
    exact Nat.succ_ne_self _ longer

end Keeps

/-- A rerun of ten o'clock that is delivered again after the one of eleven o'clock. -/
theorem redelivery_counts_again : ∃ before after,
      (steps modelRows {} [.apply (nightEvent tenOClock), .apply (nightEvent elevenOClock)]).load
        modelRows nightRun = some before ∧
      ((steps modelRows {}
        [.apply (nightEvent tenOClock), .apply (nightEvent elevenOClock)]).apply modelRows
          (nightEvent tenOClock)).load modelRows nightRun = some after ∧ before ≠ after := by
  obtain ⟨before, after, -, -, loaded, loaded', -, -, -, -, -, -, -, -, -, differ⟩ :=
    redelivery_changes_ledger modelRows_roundTrips empty_sound
      (List.mem_cons_self : LedgerOp.apply (nightEvent tenOClock) ∈
        [LedgerOp.apply (nightEvent tenOClock), .apply (nightEvent elevenOClock)])
  exact ⟨before, after, loaded, loaded', differ⟩

/-- One rerun delivered twice counts as two attempts. -/
theorem redelivery_not_idempotent :
    modelRows.RoundTrips ∧
      ((steps modelRows {} [.apply (nightEvent tenOClock)]).apply modelRows
        (nightEvent tenOClock)).load modelRows nightRun ≠
      (steps modelRows {} [.apply (nightEvent tenOClock)]).load modelRows nightRun :=
  ⟨modelRows_roundTrips, by decide +kernel⟩

end ProjectionDatabasePrLedgerStore

end OmniMarket.PrLedger
