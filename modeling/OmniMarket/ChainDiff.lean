import Mathlib.Data.Int.Notation
import OmniMarket.Lib.OrderedDict

/-!
# The diff of two golden chains

`handle` looks the entries of one chain up in a dictionary of the other that keeps one entry for
each event type. A chain that gives an event type two sequences or topics is compared with one of
them, and how often an entry stands in a chain is only seen in the length.
-/

namespace OmniMarket.ChainDiff

structure ModelGoldenChainEntry where
  sequence : ℤ
  eventType : String
  topic : String
  sourceNode : String

structure ModelChainDiffRequest where
  expected : List ModelGoldenChainEntry
  observed : List ModelGoldenChainEntry

structure ModelChainDiff where
  «matches» : Bool
  expectedCount : ℕ
  observedCount : ℕ
  missingEvents : List ModelGoldenChainEntry
  unexpectedEvents : List ModelGoldenChainEntry
  orderMismatches : List String
  topicMismatches : List String

/-- `{e.event_type: e for e in chain}`: the last entry of each event type. -/
def byEvent (chain : List ModelGoldenChainEntry) : OrderedDict String ModelGoldenChainEntry :=
  .foldByKey ModelGoldenChainEntry.eventType (fun _ entry => entry) .empty chain

def orderMismatch (obsEntry expEntry : ModelGoldenChainEntry) : Option String :=
  if obsEntry.sequence ≠ expEntry.sequence then
    some (obsEntry.eventType ++ ": expected seq " ++ toString expEntry.sequence ++
      ", observed seq " ++ toString obsEntry.sequence)
  else none

section

variable (repr : String → String)

/-- `repr` is what `!r` makes of a topic. -/
def topicMismatch (obsEntry expEntry : ModelGoldenChainEntry) :
    Option String :=
  if obsEntry.topic ≠ expEntry.topic then
    some (obsEntry.eventType ++ ": expected topic " ++ repr expEntry.topic ++ ", observed " ++
      repr obsEntry.topic)
  else none

/-- `HandlerChainDiff.handle`. -/
def handle (request : ModelChainDiffRequest) : ModelChainDiff :=
  let expectedByEvent := byEvent request.expected
  let observedByEvent := byEvent request.observed
  let missingEvents := request.expected.filter fun e => (observedByEvent.get? e.eventType).isNone
  let unexpectedEvents := request.observed.filter fun e => (expectedByEvent.get? e.eventType).isNone
  let orderMismatches := request.observed.filterMap fun obsEntry =>
    (expectedByEvent.get? obsEntry.eventType).bind (orderMismatch obsEntry)
  let topicMismatches := request.observed.filterMap fun obsEntry =>
    (expectedByEvent.get? obsEntry.eventType).bind (topicMismatch repr obsEntry)
  { «matches» := request.expected.length = request.observed.length && missingEvents.isEmpty &&
      unexpectedEvents.isEmpty && orderMismatches.isEmpty && topicMismatches.isEmpty
    expectedCount := request.expected.length
    observedCount := request.observed.length
    missingEvents := missingEvents
    unexpectedEvents := unexpectedEvents
    orderMismatches := orderMismatches
    topicMismatches := topicMismatches }

/-! ## What the diff owes -/

/-- What an entry is compared by. -/
def ModelGoldenChainEntry.key (entry : ModelGoldenChainEntry) : String × ℤ × String :=
  (entry.eventType, entry.sequence, entry.topic)

def Matches (expected observed : List ModelGoldenChainEntry) : Prop :=
  (handle repr ⟨expected, observed⟩).matches = true

/-- One of the lists of the diff is not empty. -/
def Explained (diff : ModelChainDiff) : Prop :=
  diff.missingEvents ≠ [] ∨ diff.unexpectedEvents ≠ [] ∨ diff.orderMismatches ≠ [] ∨
    diff.topicMismatches ≠ []

structure DiffExact (expected observed : List ModelGoldenChainEntry) :
    Prop where
  exact : Matches repr expected observed ↔
    (expected.map ModelGoldenChainEntry.key).Perm (observed.map ModelGoldenChainEntry.key)
  itself : Matches repr expected expected ∧ Matches repr observed observed
  symmetric : Matches repr expected observed ↔ Matches repr observed expected
  reordered : ∀ expected' observed', expected'.Perm expected → observed'.Perm observed →
    (Matches repr expected' observed' ↔ Matches repr expected observed)
  explained : ¬ Matches repr expected observed → Explained (handle repr ⟨expected, observed⟩)

end

/-- The chain gives each event type one sequence and one topic. -/
def Unambiguous (chain : List ModelGoldenChainEntry) : Prop :=
  ∀ entry ∈ chain, ∀ other ∈ chain, entry.eventType = other.eventType → entry.key = other.key

def SameEntries (expected observed : List ModelGoldenChainEntry) : Prop :=
  ∀ key, key ∈ expected.map ModelGoldenChainEntry.key ↔ key ∈ observed.map ModelGoldenChainEntry.key

/-- Chains with the same entries have each of them equally often. -/
def Repeats (expected observed : List ModelGoldenChainEntry) : Prop :=
  SameEntries expected observed →
    (expected.map ModelGoldenChainEntry.key).Perm (observed.map ModelGoldenChainEntry.key)

/-! ## The lookups -/

variable {chain expected observed : List ModelGoldenChainEntry} {entry other : ModelGoldenChainEntry}
  {eventType : String} {repr : String → String}

theorem get?_byEvent : (byEvent chain).get? eventType =
    (chain.filter fun entry => entry.eventType = eventType).getLast? := by
  rw [byEvent, OrderedDict.get?_foldByKey]
  induction chain.filter fun entry => entry.eventType = eventType using List.reverseRecOn with
  | nil => rfl
  | append_singleton before entry ih => rw [List.foldl_append, List.getLast?_concat]; rfl

theorem byEvent_some (found : (byEvent chain).get? eventType = some entry) :
    entry ∈ chain ∧ entry.eventType = eventType := by
  rw [get?_byEvent] at found
  have listed := List.mem_filter.1 (List.mem_of_getLast? found)
  exact ⟨listed.1, of_decide_eq_true listed.2⟩

theorem byEvent_isNone :
    ((byEvent chain).get? eventType).isNone = true ↔ ∀ entry ∈ chain, entry.eventType ≠ eventType := by
  rw [get?_byEvent, Option.isNone_iff_eq_none, List.getLast?_eq_none_iff, List.filter_eq_nil_iff]
  simp only [decide_eq_true_eq, ne_eq]

theorem orderMismatch_eq_none :
    orderMismatch entry other = none ↔ entry.sequence = other.sequence := by
  unfold orderMismatch
  split <;> simp_all

theorem topicMismatch_eq_none : topicMismatch repr entry other = none ↔ entry.topic = other.topic := by
  unfold topicMismatch
  split <;> simp_all

/-- Nothing is missing, and what is observed is what is looked up. -/
def Quiet (expected observed : List ModelGoldenChainEntry) : Prop :=
  (∀ entry ∈ expected, ∃ other ∈ observed, other.eventType = entry.eventType) ∧
    ∀ other ∈ observed, ∃ entry, (byEvent expected).get? other.eventType = some entry ∧
      entry.key = other.key

theorem not_explained_iff :
    ¬ Explained (handle repr ⟨expected, observed⟩) ↔ Quiet expected observed := by
  unfold Explained
  rw [not_or, not_or, not_or, not_not, not_not, not_not, not_not]
  show (_ = [] ∧ _ = [] ∧ _ = [] ∧ _ = []) ↔ _
  simp only [handle, List.filter_eq_nil_iff, List.filterMap_eq_nil_iff, byEvent_isNone]
  constructor
  · rintro ⟨missing, unexpected, orders, topics⟩
    refine ⟨fun entry listed => ?_, fun other listed => ?_⟩
    · simpa using missing entry listed
    · have known : ((byEvent expected).get? other.eventType).isNone = false := by
        rw [← Bool.not_eq_true, byEvent_isNone]
        exact unexpected other listed
      obtain ⟨entry, found⟩ := Option.isSome_iff_exists.1 (Option.isNone_eq_false_iff.1 known)
      have order := orders other listed
      have topic := topics other listed
      rw [found, Option.bind_some] at order topic
      refine ⟨entry, found, ?_⟩
      rw [ModelGoldenChainEntry.key, (byEvent_some found).2, ← orderMismatch_eq_none.1 order,
        ← topicMismatch_eq_none.1 topic]
      rfl
  · rintro ⟨covered, looked⟩
    refine ⟨fun entry listed absent => ?_, fun other listed absent => ?_, fun other listed => ?_,
      fun other listed => ?_⟩
    · obtain ⟨other, among, same⟩ := covered entry listed
      exact absent other among same
    · obtain ⟨entry, found, -⟩ := looked other listed
      exact absent entry (byEvent_some found).1 (byEvent_some found).2
    · obtain ⟨entry, found, same⟩ := looked other listed
      rw [found, Option.bind_some, orderMismatch_eq_none]
      exact (congrArg (·.2.1) same).symm
    · obtain ⟨entry, found, same⟩ := looked other listed
      rw [found, Option.bind_some, topicMismatch_eq_none]
      exact (congrArg (·.2.2) same).symm

theorem matches_iff :
    Matches repr expected observed ↔
      expected.length = observed.length ∧ Quiet expected observed := by
  rw [← @not_explained_iff expected observed repr]
  unfold Matches Explained handle
  simp only [Bool.and_eq_true, decide_eq_true_eq, List.isEmpty_iff, not_or, not_not, and_assoc]

/-! ## Exactness -/

theorem Unambiguous.perm (single : Unambiguous expected) (reordered : observed.Perm expected) :
    Unambiguous observed := fun entry listed other listed' =>
  single entry (reordered.subset listed) other (reordered.subset listed')

theorem quiet_iff (single : Unambiguous expected) :
    Quiet expected observed ↔ SameEntries expected observed ∧ Unambiguous observed := by
  constructor
  · rintro ⟨covered, looked⟩
    refine ⟨fun key => ⟨fun listed => ?_, fun listed => ?_⟩, fun entry listed other listed' same => ?_⟩
    · obtain ⟨entry, among, rfl⟩ := List.mem_map.1 listed
      obtain ⟨other, among', same⟩ := covered entry among
      obtain ⟨held, found, own⟩ := looked other among'
      have type := (byEvent_some found).2.trans same
      rw [single entry among held (byEvent_some found).1 type.symm, own]
      exact List.mem_map_of_mem among'
    · obtain ⟨other, among, rfl⟩ := List.mem_map.1 listed
      obtain ⟨held, found, own⟩ := looked other among
      rw [← own]
      exact List.mem_map_of_mem (byEvent_some found).1
    · obtain ⟨held, found, own⟩ := looked entry listed
      obtain ⟨held', found', own'⟩ := looked other listed'
      rw [same, found', Option.some_inj] at found
      rw [← own, ← own', found]
  · rintro ⟨same, -⟩
    refine ⟨fun entry listed => ?_, fun other listed => ?_⟩
    · obtain ⟨other, among, own⟩ := List.mem_map.1 ((same entry.key).1 (List.mem_map_of_mem listed))
      exact ⟨other, among, congrArg Prod.fst own⟩
    · obtain ⟨entry, among, own⟩ := List.mem_map.1 ((same other.key).2 (List.mem_map_of_mem listed))
      have known : ((byEvent expected).get? other.eventType).isNone = false := by
        rw [← Bool.not_eq_true, byEvent_isNone]
        exact fun none' => none' entry among (congrArg Prod.fst own)
      obtain ⟨held, found⟩ := Option.isSome_iff_exists.1 (Option.isNone_eq_false_iff.1 known)
      refine ⟨held, found, ?_⟩
      rw [← own]
      refine single held (byEvent_some found).1 entry among ?_
      exact (byEvent_some found).2.trans (congrArg Prod.fst own).symm

theorem matches_itself_iff : Matches repr chain chain ↔ Unambiguous chain := by
  rw [matches_iff]
  constructor
  · rintro ⟨-, -, looked⟩ entry listed other listed' same
    obtain ⟨held, found, own⟩ := looked entry listed
    obtain ⟨held', found', own'⟩ := looked other listed'
    rw [same, found', Option.some_inj] at found
    rw [← own, ← own', found]
  · intro single
    exact ⟨rfl, (quiet_iff single).2 ⟨fun _ => Iff.rfl, single⟩⟩

theorem matches_iff_perm (single : Unambiguous expected) (repeats : Repeats expected observed)
    (single' : Unambiguous observed) :
    Matches repr expected observed ↔
      (expected.map ModelGoldenChainEntry.key).Perm (observed.map ModelGoldenChainEntry.key) := by
  rw [matches_iff, quiet_iff single]
  constructor
  · rintro ⟨-, same, -⟩
    exact repeats same
  · intro reordered
    have lengths := reordered.length_eq
    rw [List.length_map, List.length_map] at lengths
    exact ⟨lengths, fun key => reordered.mem_iff, single'⟩

theorem Repeats.perm {expected' observed' : List ModelGoldenChainEntry}
    (repeats : Repeats expected observed) (reordered : expected'.Perm expected)
    (reordered' : observed'.Perm observed) : Repeats expected' observed' := by
  intro same
  have keys := reordered.map ModelGoldenChainEntry.key
  have keys' := reordered'.map ModelGoldenChainEntry.key
  refine keys.trans ((repeats fun key => ?_).trans keys'.symm)
  rw [← keys.mem_iff, ← keys'.mem_iff]
  exact same key

/-- The diff is exact just for two chains that each give an event type one sequence and topic, and
that have their entries equally often if they have the same ones. -/
theorem diffExact_iff (repr : String → String) (expected observed : List ModelGoldenChainEntry) :
    DiffExact repr expected observed ↔
      Unambiguous expected ∧ Unambiguous observed ∧ Repeats expected observed := by
  constructor
  · intro exact
    have single := matches_itself_iff.1 exact.itself.1
    have single' := matches_itself_iff.1 exact.itself.2
    refine ⟨single, single', fun same => exact.exact.1 ?_⟩
    by_contra differs
    have quiet := (quiet_iff single).2 ⟨same, single'⟩
    exact not_explained_iff.2 quiet (exact.explained differs)
  · rintro ⟨single, single', repeats⟩
    have exact := @matches_iff_perm _ _ repr single repeats single'
    refine ⟨exact, ⟨matches_itself_iff.2 single, matches_itself_iff.2 single'⟩, ?_, ?_, ?_⟩
    · rw [exact, matches_iff_perm single' (fun same => (repeats fun key => (same key).symm).symm)
        single]
      exact List.perm_comm
    · intro expected' observed' reordered reordered'
      rw [exact, matches_iff_perm (single.perm reordered) (repeats.perm reordered reordered')
        (single'.perm reordered')]
      have keys := reordered.map ModelGoldenChainEntry.key
      have keys' := reordered'.map ModelGoldenChainEntry.key
      exact ⟨fun same => keys.symm.trans (same.trans keys'),
        fun same => keys.trans (same.trans keys'.symm)⟩
    · intro differs
      by_contra silent
      have quiet := not_explained_iff.1 silent
      exact differs (exact.2 (repeats ((quiet_iff single).1 quiet).1))

/-! ## A retried event -/

/-- One event type at two places of the chain. -/
def retriedChain : List ModelGoldenChainEntry :=
  [⟨1, "generation-attempted", "onex.evt.attempted.v1", "node_generation_consumer"⟩,
    ⟨2, "generation-attempted", "onex.evt.attempted.v1", "node_generation_consumer"⟩]

/-- A chain with a retry does not match itself. -/
theorem retriedChain_mismatch : ¬ DiffExact id retriedChain retriedChain := by
  intro exact
  have mismatch : (handle id ⟨retriedChain, retriedChain⟩).matches = false := by decide +kernel
  have itself : (handle id ⟨retriedChain, retriedChain⟩).matches = true := exact.itself.1
  rw [mismatch] at itself
  cases itself

end OmniMarket.ChainDiff
