import Mathlib.Data.List.Dedup
import OmniMarket.PrLedger.Ties

/-!
# Reconstruction against the live path

`reconstruct_pr_ledger` sorts the events of each PR by time and kind, and the transitions by
time and phase. The live path takes them as they arrive, in any order in which no time
decreases. Both give one ledger exactly when nothing that shares a time depends on the order.
-/

namespace OmniMarket.PrLedger
variable {transitions' : List ModelPrLifecyclePhaseTransition}
  {first second : List ModelPrLedgerSourceEvent}

/-! ## What is sorted -/

instance : IsTrans ModelPrLedgerSourceEvent EventLe :=
  ⟨fun _ _ _ below above => le_trans (show toLex _ ≤ toLex _ from below) above⟩

instance : Std.Total EventLe := ⟨fun _ _ => le_total (toLex _) (toLex _)⟩

instance : IsTrans ModelPrLifecyclePhaseTransition TransitionLe :=
  ⟨fun _ _ _ below above => le_trans (show toLex _ ≤ toLex _ from below) above⟩

instance : Std.Total TransitionLe := ⟨fun _ _ => le_total (toLex _) (toLex _)⟩

theorem EventLe.observedAt {first second : ModelPrLedgerSourceEvent} (below : EventLe first second)
    (key : first.key = second.key) : first.observedAt.value ≤ second.observedAt.value := by
  obtain ⟨repo, number⟩ : first.repo = second.repo ∧ first.prNumber = second.prNumber :=
    Prod.mk.inj key
  rw [EventLe, repo, number, Prod.Lex.toLex_le_toLex] at below
  rcases below with apart | ⟨-, inRepo⟩
  · exact absurd apart (lt_irrefl _)
  · rcases Prod.Lex.toLex_le_toLex.1 inRepo with apart | ⟨-, inPr⟩
    · exact absurd apart (lt_irrefl _)
    · rcases Prod.Lex.toLex_le_toLex.1 inPr with before | ⟨same, -⟩
      · exact before.le
      · exact same.le

theorem TransitionLe.recordedAt {first second : ModelPrLifecyclePhaseTransition}
    (below : TransitionLe first second) : first.recordedAt.value ≤ second.recordedAt.value := by
  rcases Prod.Lex.toLex_le_toLex.1 below with before | ⟨same, -⟩
  · exact before.le
  · exact same.le

theorem sorted_inTime (events : List ModelPrLedgerSourceEvent) (key : PrKey) :
    InTime (ofKey (events.insertionSort EventLe) key) := by
  have sorted := (List.pairwise_insertionSort EventLe events).filter fun event => event.key = key
  refine sorted.imp_of_mem ?_
  intro first second listed listed' below
  exact below.observedAt ((mem_ofKey.1 listed).2.trans (mem_ofKey.1 listed').2.symm)

def TransitionsInTime (transitions : List ModelPrLifecyclePhaseTransition) : Prop :=
  transitions.Pairwise fun first second => first.recordedAt.value ≤ second.recordedAt.value

def DistinctTimes (transitions : List ModelPrLifecyclePhaseTransition) : Prop :=
  ∀ first ∈ transitions, ∀ second ∈ transitions,
    first.recordedAt = second.recordedAt → first = second

instance : DecidablePred DistinctTimes := fun transitions =>
  inferInstanceAs (Decidable (∀ first ∈ transitions, ∀ second ∈ transitions, _ → _))

theorem transitions_ties {first second : List ModelPrLifecyclePhaseTransition}
    (distinct : DistinctTimes first) (same : first.Perm second) (inTime : TransitionsInTime first)
    (inTime' : TransitionsInTime second) : first = second := by
  refine List.Perm.eq_of_pairwise ?_ inTime inTime' same
  intro a b listed listed' below above
  exact distinct a listed b (same.symm.subset listed')
    (NonEmptyString.ext (le_antisymm below above))

theorem sorted_transitionsInTime (transitions : List ModelPrLifecyclePhaseTransition) :
    TransitionsInTime (transitions.insertionSort TransitionLe) :=
  (List.pairwise_insertionSort TransitionLe transitions).imp TransitionLe.recordedAt

/-! ## The reconstructed ledger -/

theorem sortedTexts_same {texts : List String} {text : String} (some' : texts ≠ [])
    (same : ∀ t ∈ texts, t = text) : sortedTexts texts = [text] := by
  rw [sortedTexts, List.eq_replicate_of_mem same,
    List.replicate_dedup (List.length_pos_iff.2 some').ne']
  rfl

section OneRun

variable {unicode : UnicodeTable} {runId : NonEmptyString}
  {events : List ModelPrLedgerSourceEvent} {transitions : List ModelPrLifecyclePhaseTransition}

theorem reconstruct_ok (some' : events ≠ []) (ofRun : ∀ event ∈ events, event.runId = runId)
    (ofRun' : ∀ transition ∈ transitions, transition.runId = runId)
    (legal : ∀ transition ∈ transitions, transition.isLegal = true) :
    reconstructPrLedger unicode events transitions =
      .ok (ledgerOf runId (events.insertionSort EventLe)
        (transitions.insertionSort TransitionLe)) := by
  have runIds : sortedTexts (events.map fun event => event.runId.value) = [runId.value] := by
    refine sortedTexts_same (by simpa using some') ?_
    intro text listed
    obtain ⟨event, present, rfl⟩ := List.mem_map.1 listed
    rw [ofRun event present]
  have transitionRunIds :
      sortedTexts (transitions.map fun transition => transition.runId.value) = [] ∨
        sortedTexts (transitions.map fun transition => transition.runId.value) = [runId.value] := by
    cases transitions with
    | nil => exact .inl rfl
    | cons first rest =>
      refine .inr (sortedTexts_same (List.cons_ne_nil _ _) ?_)
      intro text listed
      obtain ⟨transition, present, rfl⟩ := List.mem_map.1 listed
      rw [ofRun' transition present]
  have none' : (transitions.find? fun transition => !transition.isLegal) = none := by
    rw [List.find?_eq_none]
    intro transition listed
    simp [legal transition listed]
  cases events with
  | nil => exact absurd rfl some'
  | cons first rest =>
    rw [reconstructPrLedger, runIds, if_neg (by simp), if_neg ?_, none', ledgerOf,
      ofRun first List.mem_cons_self]
    rintro ⟨there, differs⟩
    rcases transitionRunIds with nothing | same
    · exact there nothing
    · exact differs same

theorem ledgerOf_ties (same : first.Perm second)
    (agree : TiesAgree first) (ofOneRun : ∀ event ∈ first, event.runId = runId)
    (inTime : ∀ key, InTime (ofKey first key)) (inTime' : ∀ key, InTime (ofKey second key)) :
    ledgerOf runId first transitions = ledgerOf runId second transitions := by
  have folded (key : PrKey) : foldAll none (ofKey first key) = foldAll none (ofKey second key) := by
    have own : ∀ event ∈ ofKey first key, event.key = key ∧ event.runId = runId := by
      intro event listed
      obtain ⟨present, near⟩ := mem_ofKey.1 listed
      exact ⟨near, ofOneRun event present⟩
    exact foldAll_ties (agree.ofKey key) (same.filter _) (inTime key) (inTime' key) own
  have entries := sorted_entries (foldEntries_distinct first) (foldEntries_distinct second)
    fun entry => by rw [mem_foldEntries, mem_foldEntries, folded]
  rw [ledgerOf, ledgerOf, buildLedger, buildLedger, entries, latestOf_perm (same.map _)]

theorem foldAll_of_ledgerOf
    (same : ledgerOf runId first transitions = ledgerOf runId second transitions') (key : PrKey) :
    foldAll none (ofKey first key) = foldAll none (ofKey second key) := by
  have sorted := congrArg ModelPrLedger.entries same
  have reordered : (foldEntries first).values.Perm (foldEntries second).values :=
    ((List.perm_insertionSort _ _).symm.trans (List.Perm.of_eq sorted)).trans
      (List.perm_insertionSort _ _)
  have along {source target : List ModelPrLedgerSourceEvent}
      (within : (foldEntries source).values ⊆ (foldEntries target).values) {entry : ModelPrLedgerEntry}
      (folded : foldAll none (ofKey source key) = some entry) :
      foldAll none (ofKey target key) = some entry := by
    have own := foldAll_key folded
    subst own
    exact mem_foldEntries.1 (within (mem_foldEntries.2 folded))
  refine Option.ext ?_
  intro entry
  exact ⟨along reordered.subset, along reordered.symm.subset⟩

end OneRun

/-! ## The live path -/

/-- The operations apply the events and record the transitions, each in an order in time. -/
structure LiveRun (events : List ModelPrLedgerSourceEvent)
    (transitions : List ModelPrLifecyclePhaseTransition) (ops : List LedgerOp) : Prop where
  events : (applied ops).Perm events
  eventsInTime : InTime (applied ops)
  transitions : (ops.filterMap LedgerOp.transition?).Perm transitions
  transitionsInTime : TransitionsInTime (ops.filterMap LedgerOp.transition?)

structure Reconstructs (unicode : UnicodeTable) (runId : NonEmptyString)
    (events : List ModelPrLedgerSourceEvent)
    (transitions : List ModelPrLifecyclePhaseTransition) : Prop where
  anyOrder : ∀ events' transitions', events'.Perm events → transitions'.Perm transitions →
    reconstructPrLedger unicode events' transitions' =
      reconstructPrLedger unicode events transitions
  live : ∀ ops, LiveRun events transitions ops →
    reconstructPrLedger unicode events transitions =
      .ok ((InMemoryPrLedgerStore.runOps ops).load runId)

theorem load_own {ops : List LedgerOp} {runId : NonEmptyString}
    (ofOneRun : ∀ event ∈ applied ops, event.runId = runId)
    (own : ∀ transition ∈ ops.filterMap LedgerOp.transition?,
      transition.runId = runId ∧ transition.isLegal = true) :
    (InMemoryPrLedgerStore.runOps ops).load runId =
      ledgerOf runId (applied ops) (ops.filterMap LedgerOp.transition?) := by
  have events : ofRun (applied ops) runId = applied ops := by
    rw [ofRun, List.filter_eq_self]
    intro event listed
    exact decide_eq_true (ofOneRun event listed)
  have transitions : transitionsOf (recorded ops) runId =
      ops.filterMap LedgerOp.transition? := by
    rw [transitionsOf, recorded, List.filter_filter, List.filter_eq_self]
    intro transition listed
    rw [(own transition listed).2, Bool.and_true]
    exact decide_eq_true (own transition listed).1
  rw [load_memory, events, transitions]

section

variable (events : List ModelPrLedgerSourceEvent)

section

variable (transitions : List ModelPrLifecyclePhaseTransition)

/-- The operations of one live run: the events first, then the transitions. -/
def opsOf : List LedgerOp :=
  events.map .apply ++ transitions.map .record

theorem applied_opsOf : applied (opsOf events transitions) = events := by
  simp [applied, opsOf, List.filterMap_map, LedgerOp.event?, Function.comp_def]

theorem transitions_opsOf :
    (opsOf events transitions).filterMap LedgerOp.transition? = transitions := by
  simp [opsOf, List.filterMap_map, LedgerOp.transition?, Function.comp_def]

end

end

section Reconstructs

variable {unicode : UnicodeTable} {runId : NonEmptyString}
  {events : List ModelPrLedgerSourceEvent} {transitions : List ModelPrLifecyclePhaseTransition}

theorem TiesAgree.perm (agree : TiesAgree first) (same : first.Perm second) : TiesAgree second := by
  obtain ⟨provenance, correlation, conclusion⟩ := agree
  simp only [same.mem_iff] at provenance correlation conclusion
  exact ⟨provenance, correlation, conclusion⟩

theorem InTime.ofKey (inTime : InTime events) (key : PrKey) : InTime (ofKey events key) :=
  List.Pairwise.filter _ inTime

theorem DistinctTimes.perm {first second : List ModelPrLifecyclePhaseTransition}
    (distinct : DistinctTimes first) (same : first.Perm second) : DistinctTimes second := by
  intro a listed b listed'
  exact distinct a (same.symm.subset listed) b (same.symm.subset listed')

theorem reconstructs_of_ties (ofOneRun : ∀ event ∈ events, event.runId = runId)
    (ofOneRun' : ∀ transition ∈ transitions, transition.runId = runId)
    (legal : ∀ transition ∈ transitions, transition.isLegal = true) (some' : events ≠ [])
    (agree : TiesAgree events) (distinct : DistinctTimes transitions) :
    Reconstructs unicode runId events transitions := by
  have sorted := (List.perm_insertionSort EventLe events).symm
  have sorted' := (List.perm_insertionSort TransitionLe transitions).symm
  -- every order in time of the events and of the transitions makes the sorted ledger
  have ledger : ∀ events' transitions', events'.Perm events →
      (∀ key, InTime (ofKey events' key)) → transitions'.Perm transitions →
      TransitionsInTime transitions' →
      reconstructPrLedger unicode events transitions =
        .ok (ledgerOf runId events' transitions') := by
    intro events' transitions' same inTime same' inTime'
    have ordered : transitions.insertionSort TransitionLe = transitions' :=
      transitions_ties (distinct.perm sorted') (sorted'.symm.trans same'.symm)
        (sorted_transitionsInTime transitions) inTime'
    rw [reconstruct_ok some' ofOneRun ofOneRun' legal, ordered]
    refine congrArg Except.ok (ledgerOf_ties (sorted.symm.trans same.symm) (agree.perm sorted) ?_
      (sorted_inTime events) inTime)
    intro event listed
    exact ofOneRun event (sorted.symm.subset listed)
  constructor
  · intro events' transitions' same same'
    have there : events' ≠ [] := by
      rintro rfl
      exact some' (List.nil_perm.1 same)
    rw [reconstruct_ok there (fun event listed => ofOneRun event (same.subset listed))
      (fun transition listed => ofOneRun' transition (same'.subset listed))
      (fun transition listed => legal transition (same'.subset listed))]
    exact (ledger _ _ ((List.perm_insertionSort EventLe events').trans same)
      (sorted_inTime events') ((List.perm_insertionSort TransitionLe transitions').trans same')
      (sorted_transitionsInTime transitions')).symm
  · intro ops run
    rw [load_own (fun event listed => ofOneRun event (run.events.subset listed))
      fun transition listed => ⟨ofOneRun' transition (run.transitions.subset listed),
        legal transition (run.transitions.subset listed)⟩]
    exact ledger _ _ run.events (fun key => run.eventsInTime.ofKey key) run.transitions
      run.transitionsInTime

/-! ## Orders that are told apart -/

theorem exists_inTime {α : Type} (time : α → String) (values : List α) : ∃ ordered : List α,
      ordered.Perm values ∧ ordered.Pairwise fun first second => time first ≤ time second := by
  let timeLe (first second : α) : Prop := time first ≤ time second
  have transitive : IsTrans α timeLe := ⟨fun _ _ _ => le_trans⟩
  have total : Std.Total timeLe := ⟨fun _ _ => le_total _ _⟩
  exact ⟨values.insertionSort timeLe, List.perm_insertionSort timeLe values,
    List.pairwise_insertionSort timeLe values⟩

section Around

variable {α : Type} {time : α → String} {first second : α}

theorem pairwise_around {earlier later : List α}
    (sorted : earlier.Pairwise fun a b => time a ≤ time b)
    (sorted' : later.Pairwise fun a b => time a ≤ time b) (tied : time first = time second)
    (before : ∀ a ∈ earlier, time a ≤ time first) (after : ∀ a ∈ later, time first ≤ time a) :
    (earlier ++ first :: second :: later).Pairwise fun a b => time a ≤ time b := by
  refine List.pairwise_append.2 ⟨sorted, ?_, ?_⟩
  · refine List.pairwise_cons.2 ⟨?_, List.pairwise_cons.2 ⟨?_, sorted'⟩⟩
    · intro a listed
      rcases List.mem_cons.1 listed with rfl | among
      · exact tied.le
      · exact after a among
    · intro a listed
      exact tied ▸ after a listed
  · intro a listed b listed'
    rcases List.mem_cons.1 listed' with rfl | further
    · exact before a listed
    · rcases List.mem_cons.1 further with rfl | among
      · exact tied ▸ before a listed
      · exact (before a listed).trans (after b among)

theorem exists_around (time : α → String) {first second : α} {values : List α}
    (listed : first ∈ values) (listed' : second ∈ values) (differ : first ≠ second)
    (tied : time first = time second) (early : α → Bool)
    (low : ∀ a, early a = true → time a ≤ time first)
    (high : ∀ a, early a = false → time first ≤ time a) : ∃ earlier later : List α,
      (earlier ++ first :: second :: later).Perm values ∧
      (earlier ++ second :: first :: later).Perm values ∧
      ((earlier ++ first :: second :: later).Pairwise fun a b => time a ≤ time b) ∧
      ((earlier ++ second :: first :: later).Pairwise fun a b => time a ≤ time b) ∧
      (∀ a ∈ earlier, a ∈ values ∧ early a = true) ∧
      ∀ a ∈ later, a ∈ values ∧ early a = false := by
  classical
  obtain ⟨rest, others⟩ : ∃ rest, values.Perm (first :: rest) :=
    ⟨_, List.perm_cons_erase listed⟩
  have further : second ∈ rest := by
    rcases List.mem_cons.1 (others.subset listed') with same | among
    · exact absurd same.symm differ
    · exact among
  obtain ⟨rest', others'⟩ : ∃ rest', rest.Perm (second :: rest') :=
    ⟨_, List.perm_cons_erase further⟩
  obtain ⟨earlier, reordered, sorted⟩ := exists_inTime time (rest'.filter early)
  obtain ⟨later, reordered', sorted'⟩ := exists_inTime time (rest'.filter fun a => !early a)
  -- the two values go between what is early and what is late, either way round
  have whole : (first :: second :: (earlier ++ later)).Perm values := by
    have kept := (reordered.append reordered').trans (List.filter_append_perm early rest')
    exact ((kept.cons second).trans others'.symm |>.cons first).trans others.symm
  have placed : (earlier ++ first :: second :: later).Perm values :=
    (List.perm_middle.trans (List.perm_middle.cons first)).trans whole
  have isEarly : ∀ a ∈ earlier, early a = true := fun a among =>
    (List.mem_filter.1 (reordered.subset among)).2
  have isLate : ∀ a ∈ later, early a = false := fun a among => by
    simpa using (List.mem_filter.1 (reordered'.subset among)).2
  refine ⟨earlier, later, placed, ?_, ?_, ?_, ?_, ?_⟩
  · exact ((List.Perm.swap first second later).append_left earlier).trans placed
  · exact pairwise_around sorted sorted' tied (fun a among => low a (isEarly a among))
      fun a among => high a (isLate a among)
  · exact pairwise_around sorted sorted' tied.symm (fun a among => tied ▸ low a (isEarly a among))
      fun a among => tied ▸ high a (isLate a among)
  · intro a among
    exact ⟨placed.subset (List.mem_append_left _ among), isEarly a among⟩
  · intro a among
    exact ⟨placed.subset (List.mem_append_right _ (List.mem_cons_of_mem _
      (List.mem_cons_of_mem _ among))), isLate a among⟩

end Around

section

variable (rebuilt : Reconstructs unicode runId events transitions)
  (ofOneRun : ∀ event ∈ events, event.runId = runId)
  (ofOneRun' : ∀ transition ∈ transitions, transition.runId = runId)
  (legal : ∀ transition ∈ transitions, transition.isLegal = true)

include rebuilt ofOneRun ofOneRun' legal

theorem Reconstructs.ledgers
    {events' : List ModelPrLedgerSourceEvent} (same : events'.Perm events) (inTime : InTime events')
    (same' : transitions'.Perm transitions) (inTime' : TransitionsInTime transitions') :
    reconstructPrLedger unicode events transitions = .ok (ledgerOf runId events' transitions') := by
  have run : LiveRun events transitions (opsOf events' transitions') := by
    constructor
    · rwa [applied_opsOf]
    · rwa [applied_opsOf]
    · rwa [transitions_opsOf]
    · rwa [transitions_opsOf]
  rw [rebuilt.live _ run, load_own, applied_opsOf, transitions_opsOf]
  · rw [applied_opsOf]
    exact fun event listed => ofOneRun event (same.subset listed)
  · rw [transitions_opsOf]
    exact fun transition listed => ⟨ofOneRun' transition (same'.subset listed),
      legal transition (same'.subset listed)⟩

theorem Reconstructs.distinctTimes : DistinctTimes transitions := by
  intro first listed second listed' tied
  by_contra differ
  obtain ⟨ordered, same, inTime⟩ :=
    exists_inTime (fun event : ModelPrLedgerSourceEvent => event.observedAt.value) events
  obtain ⟨earlier, later, placed, swapped, sorted, sorted', -, -⟩ :=
    exists_around (fun transition => transition.recordedAt.value) listed listed' differ
      (congrArg NonEmptyString.value tied)
      (fun a => a.recordedAt.value ≤ first.recordedAt.value)
      (fun _ below => of_decide_eq_true below)
      fun _ above => (not_le.1 (of_decide_eq_false above)).le
  have inOrder := rebuilt.ledgers ofOneRun ofOneRun' legal same inTime placed sorted
  rw [rebuilt.ledgers ofOneRun ofOneRun' legal same inTime swapped sorted'] at inOrder
  have logs := congrArg ModelPrLedger.phaseTransitions (Except.ok.inj inOrder)
  exact differ (List.cons.inj (List.append_cancel_left logs)).1.symm

theorem Reconstructs.swapped
    {first second : ModelPrLedgerSourceEvent} (listed : first ∈ events) (listed' : second ∈ events)
    (differ : first ≠ second) (tied : Tied first second) (early : ModelPrLedgerSourceEvent → Bool)
    (low : ∀ a, early a = true → a.observedAt.value ≤ first.observedAt.value)
    (high : ∀ a, early a = false → first.observedAt.value ≤ a.observedAt.value) :
    ∃ earlier later : List ModelPrLedgerSourceEvent,
      foldAll none (earlier ++ first :: second :: later) =
        foldAll none (earlier ++ second :: first :: later) ∧
      (∀ a ∈ earlier, (a ∈ events ∧ early a = true) ∧ a.key = first.key) ∧
      ∀ a ∈ later, (a ∈ events ∧ early a = false) ∧ a.key = first.key := by
  obtain ⟨log, same, inTime⟩ :=
    exists_inTime (fun transition : ModelPrLifecyclePhaseTransition => transition.recordedAt.value)
      transitions
  obtain ⟨earlier, later, placed, exchanged, sorted, sorted', isEarly, isLate⟩ :=
    exists_around (fun event => event.observedAt.value) listed listed' differ
      (congrArg NonEmptyString.value tied.2) early low high
  have ledgers : ledgerOf runId (earlier ++ first :: second :: later) log =
      ledgerOf runId (earlier ++ second :: first :: later) log := by
    have inOrder := rebuilt.ledgers ofOneRun ofOneRun' legal placed sorted same inTime
    rw [rebuilt.ledgers ofOneRun ofOneRun' legal exchanged sorted' same inTime] at inOrder
    exact (Except.ok.inj inOrder).symm
  have folded := foldAll_of_ledgerOf ledgers first.key
  rw [ofKey_append, ofKey_append, ofKey_own rfl, ofKey_own tied.1.symm, ofKey_own tied.1.symm,
    ofKey_own rfl] at folded
  refine ⟨_, _, folded, ?_, ?_⟩
  · intro a among
    obtain ⟨present, near⟩ := mem_ofKey.1 among
    exact ⟨isEarly a present, near⟩
  · intro a among
    obtain ⟨present, near⟩ := mem_ofKey.1 among
    exact ⟨isLate a present, near⟩

theorem Reconstructs.tiesAgree : TiesAgree events := by
  have swapped := fun first second (listed : first ∈ events) (listed' : second ∈ events)
    (differ : first ≠ second) (tied : Tied first second) =>
      rebuilt.swapped ofOneRun ofOneRun' legal listed listed' differ tied
  constructor
  · intro first listed second listed' tied
    by_cases differ : first = second
    · rw [differ]
    · -- in either order of the two the last one gives the provenance
      obtain ⟨earlier, later, folded, -, -⟩ := swapped first second listed listed' differ tied
        (fun a => a.observedAt.value ≤ first.observedAt.value)
        (fun _ below => of_decide_eq_true below)
        fun _ above => (not_le.1 (of_decide_eq_false above)).le
      exact provenance_swapped folded
  · intro first listed second listed' tied
    by_cases differ : first = second
    · exact .inl (by rw [differ])
    · -- nothing of the PR comes before the two when only what is strictly earlier may
      obtain ⟨earlier, later, folded, isEarly, -⟩ := swapped first second listed listed' differ tied
        (fun a => a.observedAt.value < first.observedAt.value)
        (fun _ below => (of_decide_eq_true below).le)
        fun _ above => not_lt.1 (of_decide_eq_false above)
      cases earlier with
      | nil => exact .inl (correlation_swapped folded)
      | cons a rest =>
        obtain ⟨⟨present, before⟩, near⟩ := isEarly a List.mem_cons_self
        exact .inr ⟨a, present, near, of_decide_eq_true before⟩
  · intro first listed second listed' tied
    by_cases differ : first = second
    · exact .inl (by rw [differ])
    · -- only what is strictly later comes after the two
      obtain ⟨earlier, later, folded, -, isLate⟩ := swapped first second listed listed' differ tied
        (fun a => a.observedAt.value ≤ first.observedAt.value)
        (fun _ below => of_decide_eq_true below)
        fun _ above => (not_le.1 (of_decide_eq_false above)).le
      -- a later verdict overrides the two, so they need not agree
      by_cases nothing : ∀ a ∈ later, a.concluded = none
      · rcases conclusion_swapped folded nothing with same | undecided | undecided
        · exact .inl same
        · exact .inr (.inl undecided)
        · exact .inr (.inr (.inl undecided))
      · push Not at nothing
        obtain ⟨a, among, decided⟩ := nothing
        obtain ⟨⟨present, after⟩, near⟩ := isLate a among
        exact .inr (.inr (.inr ⟨a, present, near, decided, not_le.1 (of_decide_eq_false after)⟩))

end

/-- The reconstruction of one run's events and legal transitions is independent of their order
and equal to the live ledger exactly when there are events, no order of events at one time shows
in a PR's entry and no two transitions share their time. -/
theorem reconstructs_iff (ofOneRun : ∀ event ∈ events, event.runId = runId)
    (ofOneRun' : ∀ transition ∈ transitions, transition.runId = runId)
    (legal : ∀ transition ∈ transitions, transition.isLegal = true) :
    Reconstructs unicode runId events transitions ↔
      events ≠ [] ∧ TiesAgree events ∧ DistinctTimes transitions := by
  constructor
  · intro rebuilt
    refine ⟨?_, rebuilt.tiesAgree ofOneRun ofOneRun' legal,
      rebuilt.distinctTimes ofOneRun ofOneRun' legal⟩
    rintro rfl
    obtain ⟨log, same, inTime⟩ :=
      exists_inTime
        (fun transition : ModelPrLifecyclePhaseTransition => transition.recordedAt.value) transitions
    have ledger := rebuilt.ledgers ofOneRun ofOneRun' legal (List.Perm.refl []) List.Pairwise.nil
      same inTime
    cases ledger
  · rintro ⟨some', agree, distinct⟩
    exact reconstructs_of_ties ofOneRun ofOneRun' legal some' agree distinct

end Reconstructs

/-! ## A sweep with a tie -/

def sweepRun : NonEmptyString := ⟨"run-1", by decide⟩

def firstSecond : NonEmptyString := ⟨"2026-06-01T12:00:00Z", by decide⟩

def nextSecond : NonEmptyString := ⟨"2026-06-01T12:00:01Z", by decide⟩

def sweepObserved (observedAt : NonEmptyString) : ModelPrLedgerSourceEvent where
  kind := .workflowRunObserved
  runId := sweepRun
  correlationId := "c-1"
  repo := "OmniNode-ai/omnimarket"
  prNumber := 7
  workflowRunId := some 11
  orchestratorAction := .observe
  phase := .mergeGroup
  observedAt := observedAt

def sweepMerged (observedAt : NonEmptyString) : ModelPrLedgerSourceEvent where
  kind := .finalConclusion
  runId := sweepRun
  correlationId := "c-1"
  repo := "OmniNode-ai/omnimarket"
  prNumber := 7
  conclusion := some .merged
  orchestratorAction := .merge
  phase := .terminal
  observedAt := observedAt

def sweepQueued : ModelPrLifecyclePhaseTransition where
  runId := sweepRun
  correlationId := "c-1"
  fromPhase := .triage
  toPhase := .mergeGroup
  recordedAt := firstSecond

/-- A workflow run observed and then a merge concluded in the same second: the reconstruction
takes the conclusion first, since its kind sorts first. -/
theorem reconstruct_tie : ¬ Reconstructs PyText.asciiTable sweepRun
      [sweepObserved firstSecond, sweepMerged firstSecond] [] := by
  intro rebuilt
  have run : LiveRun [sweepObserved firstSecond, sweepMerged firstSecond] []
      [.apply (sweepObserved firstSecond), .apply (sweepMerged firstSecond)] :=
    ⟨.refl _, .cons (fun _ listed => (List.mem_singleton.1 listed) ▸ le_refl _)
      (List.pairwise_singleton ..), .refl _, .nil⟩
  exact absurd (congrArg Except.toOption (rebuilt.live _ run)) (by decide +kernel)

theorem reconstructs_sweep :
    Reconstructs PyText.asciiTable sweepRun [sweepObserved firstSecond, sweepMerged nextSecond]
      [sweepQueued] := by
  refine (reconstructs_iff ?_ ?_ ?_).2 ⟨List.cons_ne_nil _ _, ?_, ?_⟩
  all_goals decide +kernel

end OmniMarket.PrLedger
