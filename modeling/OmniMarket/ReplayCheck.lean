import Mathlib
import OmniMarket.Lib.OrderedDict
import OmniMarket.Lib.PyText

/-!
# The replay classification of projection events

`handle` groups the events by correlation id and table and classifies each group. Two occurrences
count as one bus message when their partition and offset agree; the topic is not compared.
-/

namespace OmniMarket.ReplayCheck

open PyText (stripString)

inductive EnumReplayStatus where
  | replayProven
  | runtimeObserved
  | dashboardRendered
  | blocked
  | superseded
deriving DecidableEq

structure ModelProjectionEvent where
  correlationId : String
  sourceTopic : String
  partition : ℤ
  offset : ℤ
  table : String

structure ModelCorrelationReplayResult where
  correlationId : String
  table : String
  status : EnumReplayStatus
  occurrenceCount : ℕ
  dedupeHeld : Bool
  detail : String

structure ModelReplayCheckResult where
  status : String
  totalCorrelations : ℕ
  replayProven : ℕ
  runtimeObserved : ℕ
  blocked : ℕ
  superseded : ℕ
  findings : List ModelCorrelationReplayResult

def ModelProjectionEvent.group (event : ModelProjectionEvent) : String × String :=
  (event.correlationId, event.table)

def ModelProjectionEvent.position (event : ModelProjectionEvent) : ℤ × ℤ :=
  (event.partition, event.offset)

/-- `partition=…/offset=…`. -/
def ModelProjectionEvent.place (event : ModelProjectionEvent) : String :=
  "partition=" ++ toString event.partition ++ "/offset=" ++ toString event.offset

/-- `sorted(occurrences, key=lambda e: (e.partition, e.offset))`. -/
def sortedByPos (occurrences : List ModelProjectionEvent) : List ModelProjectionEvent :=
  occurrences.insertionSort fun first second => toLex first.position ≤ toLex second.position

def placeOf (event : Option ModelProjectionEvent) : String :=
  (event.map ModelProjectionEvent.place).getD ""

/-- `_classify_group`. -/
def classifyGroup (correlationId table : String) (occurrences : List ModelProjectionEvent) :
    ModelCorrelationReplayResult :=
  let count := occurrences.length
  if stripString correlationId = "" then
    ⟨correlationId, table, .blocked, count, false, "correlation_id is empty; cannot classify"⟩
  else if count = 1 then
    ⟨correlationId, table, .runtimeObserved, count, true, "single occurrence; no replay attempted"⟩
  else if (occurrences.map ModelProjectionEvent.position).dedup.length = 1 then
    ⟨correlationId, table, .replayProven, count, true,
      toString count ++ " identical deliveries of " ++ placeOf occurrences.head? ++
        "; dedupe key held"⟩
  else
    ⟨correlationId, table, .superseded, count, true,
      "earliest at " ++ placeOf (sortedByPos occurrences).head? ++ " superseded by " ++
        placeOf (sortedByPos occurrences).getLast? ++ "; UPSERT conflict resolution applies"⟩

section

variable (events : List ModelProjectionEvent)

def groups :
    OrderedDict (String × String) (List ModelProjectionEvent) :=
  .groupBy ModelProjectionEvent.group events

def results : List ModelCorrelationReplayResult :=
  (groups events).entries.map fun entry => classifyGroup entry.1.1 entry.1.2 entry.2

/-- `_tally`. -/
def tally (results : List ModelCorrelationReplayResult) (status : EnumReplayStatus) : ℕ :=
  results.countP fun r => r.status = status

/-- Neither observed nor proven. -/
def ModelCorrelationReplayResult.isFinding (r : ModelCorrelationReplayResult) : Bool :=
  r.status != .runtimeObserved && r.status != .replayProven

/-- `HandlerProjectionReplayCheck.handle`. -/
def handle : ModelReplayCheckResult :=
  let results := results events
  { status := if results.any (·.isFinding) then "findings" else "clean"
    totalCorrelations := results.length
    replayProven := tally results .replayProven
    runtimeObserved := tally results .runtimeObserved
    blocked := tally results .blocked
    superseded := tally results .superseded
    findings := results.filter (·.isFinding) }

/-! ## What the classification owes -/

def groupOf (key : String × String) :
    List ModelProjectionEvent :=
  events.filter fun event => event.group = key

/-- All are deliveries of one bus message. -/
def OneMessage (occurrences : List ModelProjectionEvent) : Prop :=
  ∀ event ∈ occurrences, ∀ other ∈ occurrences,
    event.sourceTopic = other.sourceTopic ∧ event.position = other.position

/-- The status that a group is to have. -/
structure RightStatus (occurrences : List ModelProjectionEvent) (status : EnumReplayStatus) :
    Prop where
  proven : status = .replayProven ↔ 2 ≤ occurrences.length ∧ OneMessage occurrences
  observed : status = .runtimeObserved ↔ occurrences.length = 1
  superseded : status = .superseded ↔ 2 ≤ occurrences.length ∧ ¬ OneMessage occurrences

def counts (result : ModelReplayCheckResult) : List ℕ :=
  [result.replayProven, result.runtimeObserved, result.blocked, result.superseded]

structure Classifies : Prop where
  once : ((results events).map fun r => (r.correlationId, r.table)).Nodup ∧
    ∀ key, (∃ r ∈ results events, (r.correlationId, r.table) = key) ↔
      ∃ event ∈ events, event.group = key
  total : (counts (handle events)).sum = (handle events).totalCorrelations ∧
    (handle events).totalCorrelations = (results events).length
  right : ∀ r ∈ results events, stripString r.correlationId ≠ "" →
    RightStatus (groupOf events (r.correlationId, r.table)) r.status
  clean : (handle events).status = "clean" ↔
    ∀ r ∈ results events, r.status ≠ .blocked ∧ r.status ≠ .superseded
  reordered : ∀ events', events'.Perm events →
    (handle events').status = (handle events).status ∧
      counts (handle events') = counts (handle events) ∧
      (handle events').totalCorrelations = (handle events).totalCorrelations

/-- The events of a group that all stand at one position come from one topic. -/
def TopicsAgree : Prop :=
  ∀ event ∈ events, stripString event.correlationId ≠ "" →
    (∀ other ∈ events, other.group = event.group → other.position = event.position) →
    ∀ other ∈ events, other.group = event.group → other.sourceTopic = event.sourceTopic

end

/-! ## Groups -/

variable {events events' : List ModelProjectionEvent} {key : String × String}
  {occurrences : List ModelProjectionEvent} {event : ModelProjectionEvent}

/-- The status of the group of a key. -/
def statusOf (events : List ModelProjectionEvent) (key : String × String) : EnumReplayStatus :=
  (classifyGroup key.1 key.2 (groupOf events key)).status

@[simp] theorem classifyGroup_correlationId (correlationId table : String) :
    (classifyGroup correlationId table occurrences).correlationId = correlationId := by
  unfold classifyGroup
  dsimp only
  split_ifs <;> rfl

@[simp] theorem classifyGroup_table (correlationId table : String) :
    (classifyGroup correlationId table occurrences).table = table := by
  unfold classifyGroup
  dsimp only
  split_ifs <;> rfl

theorem classifyGroup_unrendered (correlationId table : String) :
    (classifyGroup correlationId table occurrences).status ≠ .dashboardRendered := by
  unfold classifyGroup
  dsimp only
  split_ifs <;> exact EnumReplayStatus.noConfusion

theorem mem_keys : key ∈ (groups events).keys ↔ ∃ event ∈ events, event.group = key := by
  constructor
  · intro listed
    obtain ⟨entry, among, rfl⟩ := List.mem_map.1 listed
    obtain ⟨whole, filled⟩ := OrderedDict.mem_groupBy.1 among
    obtain ⟨event, own⟩ := List.exists_mem_of_ne_nil _ filled
    rw [whole, List.mem_filter] at own
    exact ⟨event, own.1, of_decide_eq_true own.2⟩
  · rintro ⟨event, listed, rfl⟩
    refine List.mem_map.2 ⟨(event.group, groupOf events event.group), ?_, rfl⟩
    refine OrderedDict.mem_groupBy.2 ⟨rfl, List.ne_nil_of_mem (a := event) ?_⟩
    exact List.mem_filter.2 ⟨listed, decide_eq_true rfl⟩

theorem results_eq : results events =
    (groups events).keys.map fun key => classifyGroup key.1 key.2 (groupOf events key) := by
  unfold results OrderedDict.keys
  rw [List.map_map]
  refine List.map_congr_left fun entry listed => ?_
  rw [(OrderedDict.mem_groupBy.1 listed).1]
  rfl

theorem mem_results {r : ModelCorrelationReplayResult} : r ∈ results events ↔ ∃ event ∈ events,
      r = classifyGroup event.group.1 event.group.2 (groupOf events event.group) := by
  rw [results_eq, List.mem_map]
  constructor
  · rintro ⟨key, listed, rfl⟩
    obtain ⟨event, among, rfl⟩ := mem_keys.1 listed
    exact ⟨event, among, rfl⟩
  · rintro ⟨event, among, rfl⟩
    exact ⟨event.group, mem_keys.2 ⟨event, among, rfl⟩, rfl⟩

theorem mem_groupOf : event ∈ groupOf events key ↔ event ∈ events ∧ event.group = key := by
  rw [groupOf, List.mem_filter, decide_eq_true_iff]

/-! ## The status of a group -/

theorem one_position (filled : occurrences ≠ []) :
    (occurrences.map ModelProjectionEvent.position).dedup.length = 1 ↔
      ∀ event ∈ occurrences, ∀ other ∈ occurrences, event.position = other.position := by
  constructor
  · intro single event listed other listed'
    obtain ⟨position, whole⟩ := List.length_eq_one_iff.1 single
    have at_position {event : ModelProjectionEvent} (listed : event ∈ occurrences) :
        event.position = position := by
      have own := List.mem_dedup.2 (List.mem_map_of_mem (f := ModelProjectionEvent.position) listed)
      rwa [whole, List.mem_singleton] at own
    rw [at_position listed, at_position listed']
  · intro same
    obtain ⟨event, listed⟩ := List.exists_mem_of_ne_nil _ filled
    have whole : (occurrences.map ModelProjectionEvent.position).dedup = [event.position] := by
      refine List.perm_singleton.1 ((List.perm_ext_iff_of_nodup (List.nodup_dedup _)
        (List.nodup_singleton _)).2 fun position => ?_)
      rw [List.mem_dedup, List.mem_singleton]
      constructor
      · intro among
        obtain ⟨other, listed', rfl⟩ := List.mem_map.1 among
        exact same other listed' event listed
      · rintro rfl
        exact List.mem_map_of_mem listed
    rw [whole, List.length_singleton]

theorem statusOf_perm (reordered : events'.Perm events) :
    statusOf events' key = statusOf events key := by
  have same : (groupOf events' key).Perm (groupOf events key) := reordered.filter _
  unfold statusOf classifyGroup
  dsimp only
  rw [same.length_eq, ((same.map _).dedup).length_eq]
  split_ifs <;> rfl

theorem statuses_perm (reordered : events'.Perm events) :
    ((results events').map (·.status)).Perm ((results events).map (·.status)) := by
  have keys : (groups events').keys.Perm (groups events).keys := by
    refine (List.perm_ext_iff_of_nodup (groups events').nodup (groups events).nodup).2 fun key => ?_
    show key ∈ (groups events').keys ↔ key ∈ (groups events).keys
    rw [mem_keys, mem_keys]
    exact exists_congr fun event => and_congr_left' reordered.mem_iff
  rw [results_eq, results_eq, List.map_map, List.map_map]
  refine (keys.map _).trans (List.Perm.of_eq (List.map_congr_left fun key _ => ?_))
  exact statusOf_perm reordered

theorem tally_eq (results : List ModelCorrelationReplayResult) (status : EnumReplayStatus) :
    tally results status = (results.map (·.status)).count status := by
  rw [tally, List.count, List.countP_map]
  rfl

theorem isFinding_any (results : List ModelCorrelationReplayResult) :
    results.any (·.isFinding) =
      (results.map (·.status)).any fun s => s != .runtimeObserved && s != .replayProven := by
  rw [List.any_map]
  rfl

/-- A group that is not blank has the right status unless it mixes topics at one position. -/
theorem right_iff (shown : stripString event.correlationId ≠ "") (listed : event ∈ events) :
    RightStatus (groupOf events event.group) (statusOf events event.group) ↔
      ((∀ other ∈ events, other.group = event.group → other.position = event.position) →
        ∀ other ∈ events, other.group = event.group → other.sourceTopic = event.sourceTopic) := by
  have own : event ∈ groupOf events event.group := mem_groupOf.2 ⟨listed, rfl⟩
  have filled := List.length_pos_of_mem own
  have position := @one_position (groupOf events event.group) (List.ne_nil_of_mem own)
  have together : (∀ event' ∈ groupOf events event.group, ∀ other ∈ groupOf events event.group,
      event'.position = other.position) ↔
      ∀ other ∈ events, other.group = event.group → other.position = event.position :=
    ⟨fun same other among group => same other (mem_groupOf.2 ⟨among, group⟩) event own,
      fun same first listed second listed' => by
        rw [same first (mem_groupOf.1 listed).1 (mem_groupOf.1 listed).2,
          same second (mem_groupOf.1 listed').1 (mem_groupOf.1 listed').2]⟩
  have message : OneMessage (groupOf events event.group) ↔
      (∀ other ∈ events, other.group = event.group → other.position = event.position) ∧
        ∀ other ∈ events, other.group = event.group → other.sourceTopic = event.sourceTopic := by
    constructor
    · intro one
      exact ⟨fun other among group => (one other (mem_groupOf.2 ⟨among, group⟩) event own).2,
        fun other among group => (one other (mem_groupOf.2 ⟨among, group⟩) event own).1⟩
    · rintro ⟨positions, topics⟩ first listed second listed'
      obtain ⟨among, group⟩ := mem_groupOf.1 listed
      obtain ⟨among', group'⟩ := mem_groupOf.1 listed'
      rw [topics first among group, topics second among' group', positions first among group,
        positions second among' group']
      exact ⟨rfl, rfl⟩
  rw [together] at position
  unfold statusOf classifyGroup
  dsimp only
  rw [if_neg (show ¬ stripString event.group.1 = "" from shown)]
  by_cases single : (groupOf events event.group).length = 1
  · rw [if_pos single]
    refine iff_of_true ⟨?_, iff_of_true rfl single, ?_⟩ fun _ other among group => ?_
    · exact iff_of_false EnumReplayStatus.noConfusion fun both => by omega
    · exact iff_of_false EnumReplayStatus.noConfusion fun both => by omega
    · obtain ⟨only, whole⟩ := List.length_eq_one_iff.1 single
      have at_only := mem_groupOf.2 ⟨among, group⟩
      rw [whole, List.mem_singleton] at own at_only
      rw [own, at_only]
  · have several : 2 ≤ (groupOf events event.group).length := by omega
    rw [if_neg single]
    by_cases one : (groupOf events event.group |>.map ModelProjectionEvent.position).dedup.length = 1
    · rw [if_pos one]
      have positions := position.1 one
      constructor
      · intro right _
        exact (message.1 (right.proven.1 rfl).2).2
      · intro topics
        have same := message.2 ⟨positions, topics positions⟩
        exact ⟨iff_of_true rfl ⟨several, same⟩, iff_of_false EnumReplayStatus.noConfusion single,
          iff_of_false EnumReplayStatus.noConfusion fun other => other.2 same⟩
    · rw [if_neg one]
      have apart := mt position.2 one
      have other : ¬ OneMessage (groupOf events event.group) := fun same => apart (message.1 same).1
      refine iff_of_true ⟨?_, ?_, iff_of_true rfl ⟨several, other⟩⟩ fun same => absurd same apart
      · exact iff_of_false EnumReplayStatus.noConfusion fun both => other both.2
      · exact iff_of_false EnumReplayStatus.noConfusion single

theorem count_sum (statuses : List EnumReplayStatus) (unrendered : .dashboardRendered ∉ statuses) :
    [statuses.count .replayProven, statuses.count .runtimeObserved, statuses.count .blocked,
      statuses.count .superseded].sum = statuses.length := by
  induction statuses with
  | nil => rfl
  | cons status rest ih =>
    rw [List.mem_cons, not_or] at unrendered
    have later := ih unrendered.2
    simp only [List.sum_cons, List.sum_nil, List.length_cons, List.count_cons] at later ⊢
    cases status with
    | dashboardRendered => exact absurd rfl unrendered.1
    | replayProven | runtimeObserved | blocked | superseded =>
      simp only [beq_self_eq_true, if_true, show ∀ a b : EnumReplayStatus, (a == b) = decide (a = b)
        from fun _ _ => rfl]
      simp
      omega

theorem isFinding_iff {r : ModelCorrelationReplayResult} (unrendered : r.status ≠ .dashboardRendered) :
    r.isFinding = true ↔ ¬ (r.status ≠ .blocked ∧ r.status ≠ .superseded) := by
  unfold ModelCorrelationReplayResult.isFinding
  cases status : r.status with
  | dashboardRendered => exact absurd status unrendered
  | replayProven | runtimeObserved | blocked | superseded => decide

theorem clean_iff (events : List ModelProjectionEvent) :
    (handle events).status = "clean" ↔
      ∀ r ∈ results events, r.status ≠ .blocked ∧ r.status ≠ .superseded := by
  have unrendered : ∀ r ∈ results events, r.status ≠ .dashboardRendered := by
    intro r listed
    obtain ⟨event, -, rfl⟩ := mem_results.1 listed
    exact classifyGroup_unrendered _ _
  show (if (results events).any (·.isFinding) then "findings" else "clean") = "clean" ↔ _
  split
  · next found =>
    obtain ⟨r, listed, finding⟩ := List.any_eq_true.1 found
    refine iff_of_false (by decide) fun quiet => ?_
    exact (isFinding_iff (unrendered r listed)).1 finding (quiet r listed)
  · next silent =>
    refine iff_of_true rfl fun r listed => ?_
    by_contra loud
    exact silent (List.any_eq_true.2 ⟨r, listed, (isFinding_iff (unrendered r listed)).2 loud⟩)

/-- Every group is classified once and rightly, whatever the order of the events, just where no
group mixes the topics of events at one position. -/
theorem classifies_iff (events : List ModelProjectionEvent) :
    Classifies events ↔ TopicsAgree events := by
  constructor
  · intro classifies event listed shown
    refine (right_iff shown listed).1 ?_
    have right := classifies.right _ (mem_results.2 ⟨event, listed, rfl⟩)
    rw [classifyGroup_correlationId, classifyGroup_table] at right
    exact right shown
  · intro agree
    refine ⟨⟨?_, fun key => ?_⟩, ⟨?_, rfl⟩, ?_, ?_, fun events' reordered => ?_⟩
    · rw [results_eq, List.map_map]
      have same : (fun r : ModelCorrelationReplayResult => (r.correlationId, r.table)) ∘
          (fun key => classifyGroup key.1 key.2 (groupOf events key)) = id :=
        funext fun key => by simp
      rw [same, List.map_id]
      exact (groups events).nodup
    · constructor
      · rintro ⟨r, listed, rfl⟩
        obtain ⟨event, among, rfl⟩ := mem_results.1 listed
        exact ⟨event, among, by simp⟩
      · rintro ⟨event, among, rfl⟩
        exact ⟨_, mem_results.2 ⟨event, among, rfl⟩, by simp⟩
    · show [tally _ _, tally _ _, tally _ _, tally _ _].sum = (results events).length
      rw [tally_eq, tally_eq, tally_eq, tally_eq, count_sum, List.length_map]
      intro listed
      obtain ⟨r, among, rendered⟩ := List.mem_map.1 listed
      obtain ⟨event, -, rfl⟩ := mem_results.1 among
      exact classifyGroup_unrendered _ _ rendered
    · intro r listed shown
      obtain ⟨event, among, rfl⟩ := mem_results.1 listed
      rw [classifyGroup_correlationId] at shown
      rw [classifyGroup_correlationId, classifyGroup_table]
      exact (right_iff shown among).2 (agree event among shown)
    · exact clean_iff events
    · have same := statuses_perm reordered
      refine ⟨?_, ?_, ?_⟩
      · show (if (results events').any (·.isFinding) then "findings" else "clean") =
          if (results events).any (·.isFinding) then "findings" else "clean"
        rw [isFinding_any, isFinding_any, same.any_eq]
      · show [tally _ _, tally _ _, tally _ _, tally _ _] = [tally _ _, tally _ _, tally _ _, tally _ _]
        simp only [tally_eq, same.count_eq]
      · have lengths := same.length_eq
        rwa [List.length_map, List.length_map] at lengths

/-! ## Two messages at one position -/

/-- One correlation at the same partition and offset of two topics. -/
def twoTopics : List ModelProjectionEvent :=
  [⟨"c-1", "onex.evt.task-delegated.v1", 0, 7, "delegation_events"⟩,
    ⟨"c-1", "onex.evt.task-completed.v1", 0, 7, "delegation_events"⟩]

/-- Two messages of two topics are taken for one that came twice. -/
theorem twoTopics_proven : ¬ Classifies twoTopics := by
  intro classifies
  have right := classifies.right _ (mem_results.2 ⟨_, List.mem_cons_self, rfl⟩) (by decide +kernel)
  have proven : (classifyGroup "c-1" "delegation_events"
      (groupOf twoTopics ("c-1", "delegation_events"))).status = .replayProven := by decide +kernel
  obtain ⟨-, one⟩ := right.proven.1 proven
  have topics := (one _ (mem_groupOf.2 ⟨List.mem_cons_self, rfl⟩) _
    (mem_groupOf.2 ⟨List.mem_cons_of_mem _ List.mem_cons_self, rfl⟩)).1
  exact absurd topics (by decide)

end OmniMarket.ReplayCheck
