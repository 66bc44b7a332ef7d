import OmniMarket.Lib.Json
import OmniMarket.Lib.PyText

/-!
# Delivery replay

`project_delivery_sequence`: an ordered sequence of delivered events is folded into a checksum
of its content and order and into a cursor, the greatest offset of each topic and partition.
SHA-256 in hexadecimal, of the UTF-8 bytes of a text, is a parameter.
-/

namespace OmniMarket.DeliveryReplay

/-! ## Events and results -/

/-- The body of an event: a JSON value, whose dictionaries have distinct keys. -/
structure JsonType where
  value : Json := .null
  distinct : value.distinct = true := by rfl

structure ModelDeliveryEvent where
  topic : NonEmptyString
  partition : ℕ := 0
  offset : ℕ
  key : String := ""
  eventType : NonEmptyString
  payload : JsonType := {}

structure ModelReplayExpectation where
  projectionChecksum : NonEmptyString
  cursorToken : NonEmptyString

structure ModelDeliveryReplayInput where
  correlationId : Option Uuid := none
  sequence : List ModelDeliveryEvent := []
  expected : Option ModelReplayExpectation := none

structure ModelDeliveryPosition where
  topic : NonEmptyString
  partition : ℕ
  offset : ℕ

structure ModelReplayCursor where
  positions : List ModelDeliveryPosition := []
  eventCount : ℕ := 0
  token : String

structure ModelReplayProjection where
  correlationId : Option Uuid := none
  projectionChecksum : String
  cursor : ModelReplayCursor
  eventCount : ℕ := 0
  compared : Bool := false
  diverged : Bool := false
  divergenceReasons : List String := []

/-! ## The fold -/

def recordSeparator : Char := '\x1e'

def reasonChecksum : String := "projection_checksum"

def reasonCursor : String := "cursor"

def canonicalJson (obj : Json) : List Char := Json.dumps obj

/-- The record of an event that goes into the history. -/
def encodeEvent (event : ModelDeliveryEvent) : List Char :=
  canonicalJson (.dict
    [("topic", .str event.topic.value),
     ("partition", .int event.partition),
     ("offset", .int event.offset),
     ("key", .str event.key),
     ("event_type", .str event.eventType.value),
     ("payload", event.payload.value)])

abbrev TopicPartition := NonEmptyString × ℕ

def ModelDeliveryEvent.tp (event : ModelDeliveryEvent) : TopicPartition :=
  (event.topic, event.partition)

/-- What the loop over the events keeps. -/
structure Fold where
  /-- The text that the running digest was fed. -/
  history : List Char := []
  byKey : OrderedDict String Json := .empty
  maxOffsets : OrderedDict TopicPartition ℕ := .empty

def Fold.deliver (fold : Fold) (event : ModelDeliveryEvent) : Fold where
  history := fold.history ++ (encodeEvent event ++ [recordSeparator])
  byKey := fold.byKey.set event.key event.payload.value
  maxOffsets :=
    match fold.maxOffsets.get? event.tp with
    | none => fold.maxOffsets.set event.tp event.offset
    | some current =>
      if event.offset > current then fold.maxOffsets.set event.tp event.offset
      else fold.maxOffsets

def TopicPartition.Le (first second : TopicPartition) : Prop :=
  toLex (first.1.value, first.2) ≤ toLex (second.1.value, second.2)

instance : DecidableRel TopicPartition.Le := fun first second =>
  inferInstanceAs (Decidable (toLex (first.1.value, first.2) ≤ toLex (second.1.value, second.2)))

def positionsOf (maxOffsets : OrderedDict TopicPartition ℕ) : List ModelDeliveryPosition :=
  (maxOffsets.entries.insertionSort fun first second =>
    TopicPartition.Le first.1 second.1).map fun entry => ⟨entry.1.1, entry.1.2, entry.2⟩

def tokenOf (positions : List ModelDeliveryPosition) (eventCount : ℕ) : String :=
  String.ofList (canonicalJson (.dict
    [("positions", .list (positions.map fun pos =>
        .list [.str pos.topic.value, .int pos.partition, .int pos.offset])),
     ("event_count", .int eventCount)]))

/-- The state that the checksum is taken of. -/
def projectionState (history : String) (byKey : OrderedDict String Json) (eventCount : ℕ) : Json :=
  .dict
    [("history", .str history),
     ("by_key", .dict (Json.byKey byKey.entries)),
     ("event_count", .int eventCount)]

def checksumOf (sha256 : String → String) (fold : Fold) (eventCount : ℕ) : String :=
  sha256 (String.ofList (canonicalJson
    (projectionState (sha256 (String.ofList fold.history)) fold.byKey eventCount)))

def cursorOf (fold : Fold) (eventCount : ℕ) : ModelReplayCursor where
  positions := positionsOf fold.maxOffsets
  eventCount := eventCount
  token := tokenOf (positionsOf fold.maxOffsets) eventCount

/-- The signals on which a result differs from the expected one. -/
def divergenceReasons (expected : Option ModelReplayExpectation) (checksum token : String) :
    List String :=
  match expected with
  | none => []
  | some expected =>
    (if checksum ≠ expected.projectionChecksum.value then [reasonChecksum] else []) ++
      if token ≠ expected.cursorToken.value then [reasonCursor] else []

def projectDeliverySequence (sha256 : String → String) (request : ModelDeliveryReplayInput) :
    ModelReplayProjection :=
  let fold := request.sequence.foldl Fold.deliver {}
  let eventCount := request.sequence.length
  let checksum := checksumOf sha256 fold eventCount
  let cursor := cursorOf fold eventCount
  let reasons := divergenceReasons request.expected checksum cursor.token
  { correlationId := request.correlationId
    projectionChecksum := checksum
    cursor := cursor
    eventCount := eventCount
    compared := request.expected.isSome
    diverged := !reasons.isEmpty
    divergenceReasons := reasons }

/-- Two events are equal: their payloads are the same JSON value, in whatever order their
dictionaries list their entries. -/
structure ModelDeliveryEvent.Same (first second : ModelDeliveryEvent) : Prop where
  topic : first.topic = second.topic
  partition : first.partition = second.partition
  offset : first.offset = second.offset
  key : first.key = second.key
  eventType : first.eventType = second.eventType
  payload : Json.same first.payload.value second.payload.value = true

/-- The greatest offset delivered of a topic and partition; `none` where there was no event. -/
def maxOffset (sequence : List ModelDeliveryEvent) (tp : TopicPartition) : Option ℕ :=
  ((sequence.filter fun event => event.tp = tp).map ModelDeliveryEvent.offset).max?

/-!
# Checksums and cursors of delivery sequences

1. `projection_separates`: with a hash without collisions, two sequences have the same checksum
   iff they are equal event by event; the cursor does not depend on the order of the sequence;
   and the token is the same iff as many events were delivered and each topic and partition has
   the same greatest offset.
-/

/-! ## Records of events -/

theorem encodeEvent_eq_iff {first second : ModelDeliveryEvent} :
    encodeEvent first = encodeEvent second ↔ first.Same second := by
  have distinct (event : ModelDeliveryEvent) : Json.distinct (.dict
      [("topic", .str event.topic.value), ("partition", .int event.partition),
       ("offset", .int event.offset), ("key", .str event.key),
       ("event_type", .str event.eventType.value), ("payload", event.payload.value)]) = true := by
    simp [Json.distinct, Json.distinctEntries, event.payload.distinct]
  rw [encodeEvent, encodeEvent, canonicalJson, canonicalJson,
    Json.dumps_eq_iff (distinct first) (distinct second)]
  simp only [Json.same, Json.sameEntries, OrderedDict.lookupEntry]
  constructor
  · intro agrees
    simp at agrees
    obtain ⟨topic, partition, offset, key, eventType, payload⟩ := agrees
    exact ⟨NonEmptyString.ext topic, partition, offset, key, NonEmptyString.ext eventType, payload⟩
  · rintro ⟨topic, partition, offset, key, eventType, payload⟩
    simp [topic, partition, offset, key, eventType, payload]

theorem separator_not_mem (event : ModelDeliveryEvent) : recordSeparator ∉ encodeEvent event := by
  intro listed
  have printable := Json.printable_dumps _ recordSeparator listed
  revert printable
  decide

theorem history_fold (fold : Fold) (sequence : List ModelDeliveryEvent) :
    (sequence.foldl Fold.deliver fold).history =
      fold.history ++ Json.records recordSeparator (sequence.map encodeEvent) := by
  induction sequence generalizing fold with
  | nil => exact (List.append_nil _).symm
  | cons event rest ih =>
    rw [List.foldl_cons, ih, Fold.deliver, List.append_assoc]
    rfl

variable {first second : List ModelDeliveryEvent}

theorem records_eq_iff :
    Json.records recordSeparator (first.map encodeEvent) =
        Json.records recordSeparator (second.map encodeEvent) ↔
      List.Forall₂ ModelDeliveryEvent.Same first second := by
  have free (sequence : List ModelDeliveryEvent) :
      ∀ text ∈ sequence.map encodeEvent, recordSeparator ∉ text := by
    intro text listed
    obtain ⟨event, -, rfl⟩ := List.mem_map.1 listed
    exact separator_not_mem event
  have pointwise : first.map encodeEvent = second.map encodeEvent ↔
      List.Forall₂ ModelDeliveryEvent.Same first second := by
    rw [← List.forall₂_eq_eq_eq, List.forall₂_map_left_iff, List.forall₂_map_right_iff]
    simp only [encodeEvent_eq_iff]
  rw [← pointwise]
  exact ⟨Json.records_inj (free first) (free second), congrArg _⟩

/-! ## The checksum -/

theorem sortKeys_projectionState (history : String) (byKey : OrderedDict String Json) (n : ℕ) :
    Json.sortKeys (projectionState history byKey n) =
      .dict [("by_key", .dict (Json.byKey (byKey.mapValues Json.sortKeys).entries)),
        ("event_count", .int n), ("history", .str history)] := by
  have view : Json.byKey (Json.sortEntries (Json.byKey byKey.entries)) =
      Json.byKey (byKey.mapValues Json.sortKeys).entries := by
    rw [Json.sortEntries_eq_map]
    have sorted := (Json.byKey_perm byKey.entries).map fun entry => (entry.1, entry.2.sortKeys)
    refine (Json.byKey_eq_iff ?_).2 sorted
    rw [List.map_map]
    exact ((Json.byKey_perm byKey.entries).map Prod.fst).nodup_iff.2 byKey.nodup
  have order : "by_key" ≤ "event_count" ∧ "event_count" ≤ "history" ∧ ¬ "history" ≤ "by_key" ∧
      ¬ "history" ≤ "event_count" := by decide
  simp only [projectionState, Json.sortKeys, Json.sortEntries, view]
  simp [Json.byKey, order]

theorem byKey_fold (same : List.Forall₂ ModelDeliveryEvent.Same first second) {fold fold' : Fold}
    (start : fold.byKey.mapValues Json.sortKeys = fold'.byKey.mapValues Json.sortKeys) :
    (first.foldl Fold.deliver fold).byKey.mapValues Json.sortKeys =
      (second.foldl Fold.deliver fold').byKey.mapValues Json.sortKeys := by
  induction same generalizing fold fold' with
  | nil => exact start
  | @cons event event' rest rest' equal _ ih =>
    refine ih ?_
    have payloads : event.payload.value.sortKeys = event'.payload.value.sortKeys :=
      (Json.same_iff_sortKeys _ _ event.payload.distinct event'.payload.distinct).1 equal.payload
    show (fold.byKey.set event.key event.payload.value).mapValues Json.sortKeys =
      (fold'.byKey.set event'.key event'.payload.value).mapValues Json.sortKeys
    rw [← OrderedDict.mapValues_set, ← OrderedDict.mapValues_set, start, payloads, equal.key]

theorem checksum_eq_iff {sha256 : String → String} (injective : Function.Injective sha256) :
    checksumOf sha256 (first.foldl Fold.deliver {}) first.length =
        checksumOf sha256 (second.foldl Fold.deliver {}) second.length ↔
      List.Forall₂ ModelDeliveryEvent.Same first second := by
  have histories : sha256 (String.ofList (first.foldl Fold.deliver {}).history) =
      sha256 (String.ofList (second.foldl Fold.deliver {}).history) ↔
        List.Forall₂ ModelDeliveryEvent.Same first second := by
    rw [injective.eq_iff, String.ofList_inj, history_fold, history_fold]
    exact records_eq_iff
  rw [checksumOf, checksumOf, injective.eq_iff, String.ofList_inj]
  constructor
  · intro texts
    have states := Json.write_injective texts
    rw [sortKeys_projectionState, sortKeys_projectionState] at states
    simp only [Json.dict.injEq, List.cons.injEq, Prod.mk.injEq, Json.str.injEq] at states
    exact histories.1 states.2.2.1.2
  · intro same
    have empty : ({} : Fold).byKey.mapValues Json.sortKeys =
        ({} : Fold).byKey.mapValues Json.sortKeys := rfl
    have views := byKey_fold same empty
    have state : Json.sortKeys (projectionState
        (sha256 (String.ofList (first.foldl Fold.deliver {}).history))
        (first.foldl Fold.deliver {}).byKey first.length) =
      Json.sortKeys (projectionState
        (sha256 (String.ofList (second.foldl Fold.deliver {}).history))
        (second.foldl Fold.deliver {}).byKey second.length) := by
      rw [sortKeys_projectionState, sortKeys_projectionState, views, histories.2 same,
        same.length_eq]
    exact congrArg Json.write state

/-! ## The cursor -/

def keepGreatest (held : Option ℕ) (event : ModelDeliveryEvent) : ℕ :=
  match held with
  | none => event.offset
  | some current => max current event.offset

theorem maxOffsets_deliver (fold : Fold) (event : ModelDeliveryEvent) :
    (fold.deliver event).maxOffsets =
      fold.maxOffsets.set event.tp (keepGreatest (fold.maxOffsets.get? event.tp) event) := by
  rw [Fold.deliver]
  split
  · next unseen => rw [unseen, keepGreatest]
  · next current held =>
    rw [held, keepGreatest]
    split
    · next above => rw [Nat.max_eq_right above.le]
    · next below => rw [Nat.max_eq_left (Nat.le_of_not_gt below), OrderedDict.set_get? held]

theorem maxOffsets_fold (fold : Fold) (sequence : List ModelDeliveryEvent) :
    (sequence.foldl Fold.deliver fold).maxOffsets =
      OrderedDict.foldByKey ModelDeliveryEvent.tp keepGreatest fold.maxOffsets sequence := by
  induction sequence generalizing fold with
  | nil => rfl
  | cons event rest ih =>
    rw [List.foldl_cons, ih, maxOffsets_deliver]
    rfl

theorem foldl_keepGreatest (held : Option ℕ) (events : List ModelDeliveryEvent) :
    events.foldl (fun held event => some (keepGreatest held event)) held =
      (held.toList ++ events.map ModelDeliveryEvent.offset).max? := by
  induction events generalizing held with
  | nil => cases held <;> rfl
  | cons event rest ih =>
    rw [List.foldl_cons, ih]
    cases held <;> rfl

theorem get?_maxOffsets (sequence : List ModelDeliveryEvent) (tp : TopicPartition) :
    (sequence.foldl Fold.deliver {}).maxOffsets.get? tp = maxOffset sequence tp := by
  rw [maxOffsets_fold, OrderedDict.get?_foldByKey]
  exact foldl_keepGreatest none _

theorem maxOffset_perm (reordered : first.Perm second) (tp : TopicPartition) :
    maxOffset first tp = maxOffset second tp := by
  have offsets := (reordered.filter fun event => event.tp = tp).map ModelDeliveryEvent.offset
  refine Option.ext fun greatest => ?_
  rw [maxOffset, maxOffset, List.max?_eq_some_iff, List.max?_eq_some_iff]
  simp only [offsets.mem_iff]

theorem tp_le_antisymm {first second : TopicPartition} (below : first.Le second)
    (above : second.Le first) : first = second := by
  have equal := toLex_inj.1 (le_antisymm below above)
  exact Prod.ext (NonEmptyString.ext (Prod.mk.inj equal).1) (Prod.mk.inj equal).2

theorem positionsOf_eq_iff {first second : OrderedDict TopicPartition ℕ} :
    positionsOf first = positionsOf second ↔ ∀ tp, first.get? tp = second.get? tp := by
  constructor
  · intro positions tp
    have injective : Function.Injective fun entry : TopicPartition × ℕ =>
        (⟨entry.1.1, entry.1.2, entry.2⟩ : ModelDeliveryPosition) := by
      rintro ⟨⟨topic, partition⟩, offset⟩ ⟨⟨topic', partition'⟩, offset'⟩ equal
      cases equal
      rfl
    have sorted := injective.list_map positions
    have reordered : first.entries.Perm second.entries :=
      ((List.perm_insertionSort _ _).symm.trans (.of_eq sorted)).trans (List.perm_insertionSort _ _)
    refine Option.ext fun offset => ?_
    rw [← OrderedDict.mem_entries, ← OrderedDict.mem_entries, reordered.mem_iff]
  · intro same
    have reordered := OrderedDict.entries_perm same
    have transitive : IsTrans (TopicPartition × ℕ) fun a b => TopicPartition.Le a.1 b.1 :=
      ⟨fun _ _ _ below above => le_trans (show toLex _ ≤ toLex _ from below) above⟩
    have total : Std.Total fun a b : TopicPartition × ℕ => TopicPartition.Le a.1 b.1 :=
      ⟨fun a b => le_total (toLex (a.1.1.value, a.1.2)) (toLex (b.1.1.value, b.1.2))⟩
    refine congrArg (List.map _) (List.Perm.eq_of_pairwise ?_ (List.pairwise_insertionSort _ _)
      (List.pairwise_insertionSort _ _) ?_)
    · intro a b inFirst inSecond below above
      have listed : a ∈ second.entries :=
        reordered.subset ((List.perm_insertionSort _ _).subset inFirst)
      have listed' : b ∈ second.entries := (List.perm_insertionSort _ _).subset inSecond
      exact List.inj_on_of_nodup_map second.nodup listed listed' (tp_le_antisymm below above)
    · exact ((List.perm_insertionSort _ _).trans reordered).trans (List.perm_insertionSort _ _).symm

theorem tokenOf_eq_iff {positions positions' : List ModelDeliveryPosition} {n n' : ℕ} :
    tokenOf positions n = tokenOf positions' n' ↔ positions = positions' ∧ n = n' := by
  constructor
  · intro tokens
    have sortItems_eq (positions : List ModelDeliveryPosition) :
        Json.sortItems (positions.map fun pos =>
            .list [.str pos.topic.value, .int pos.partition, .int pos.offset]) =
          positions.map fun pos =>
            .list [.str pos.topic.value, .int pos.partition, .int pos.offset] := by
      induction positions with
      | nil => rfl
      | cons pos rest ih => simp [Json.sortItems, Json.sortKeys, ih]
    have order : ¬ "positions" ≤ "event_count" := by decide
    have states := Json.write_injective (String.ofList_inj.1 tokens)
    simp only [Json.sortKeys, Json.sortEntries, sortItems_eq] at states
    simp [Json.byKey, order] at states
    obtain ⟨counts, lists⟩ := states
    have injective : Function.Injective fun pos : ModelDeliveryPosition =>
        Json.list [.str pos.topic.value, .int pos.partition, .int pos.offset] := by
      rintro ⟨topic, partition, offset⟩ ⟨topic', partition', offset'⟩ equal
      simp at equal
      obtain ⟨topics, rfl, rfl⟩ := equal
      rw [NonEmptyString.ext topics]
    exact ⟨injective.list_map lists, counts⟩
  · rintro ⟨rfl, rfl⟩
    rfl

/-! ## Separation -/

theorem cursor_token_eq_iff {sha256 : String → String} {first second : ModelDeliveryReplayInput} :
    (projectDeliverySequence sha256 first).cursor.token =
        (projectDeliverySequence sha256 second).cursor.token ↔
      first.sequence.length = second.sequence.length ∧
        ∀ tp, maxOffset first.sequence tp = maxOffset second.sequence tp := by
  show tokenOf _ _ = tokenOf _ _ ↔ _
  rw [tokenOf_eq_iff, positionsOf_eq_iff, and_comm]
  simp only [get?_maxOffsets]

/-- The checksum tells sequences apart exactly as far as they differ; the cursor tells apart what
was delivered of each topic and partition, in whatever order it was. -/
theorem projection_separates {sha256 : String → String} (injective : Function.Injective sha256) :
    (∀ first second : ModelDeliveryReplayInput,
      (projectDeliverySequence sha256 first).projectionChecksum =
          (projectDeliverySequence sha256 second).projectionChecksum ↔
        List.Forall₂ ModelDeliveryEvent.Same first.sequence second.sequence) ∧
    (∀ first second : ModelDeliveryReplayInput, first.sequence.Perm second.sequence →
      (projectDeliverySequence sha256 first).cursor =
        (projectDeliverySequence sha256 second).cursor) ∧
    (∀ first second : ModelDeliveryReplayInput,
      (projectDeliverySequence sha256 first).cursor.token =
          (projectDeliverySequence sha256 second).cursor.token ↔
        first.sequence.length = second.sequence.length ∧
          ∀ tp, maxOffset first.sequence tp = maxOffset second.sequence tp) ∧
    ∀ (first second : ModelDeliveryReplayInput) (tp : TopicPartition),
      maxOffset first.sequence tp ≠ maxOffset second.sequence tp →
        (projectDeliverySequence sha256 first).cursor.token ≠
          (projectDeliverySequence sha256 second).cursor.token := by
  refine ⟨fun _ _ => checksum_eq_iff injective, ?_, fun _ _ => cursor_token_eq_iff, ?_⟩
  · intro first second reordered
    have positions : positionsOf (first.sequence.foldl Fold.deliver {}).maxOffsets =
        positionsOf (second.sequence.foldl Fold.deliver {}).maxOffsets := by
      refine positionsOf_eq_iff.2 fun tp => ?_
      rw [get?_maxOffsets, get?_maxOffsets, maxOffset_perm reordered]
    show cursorOf _ _ = cursorOf _ _
    rw [cursorOf, cursorOf, positions, reordered.length_eq]
  · intro first second tp moved tokens
    exact moved ((cursor_token_eq_iff.1 tokens).2 tp)

/-! A run on the digests of an empty sequence and of a single event. -/

def sampleEvent : ModelDeliveryEvent where
  topic := ⟨"t", by decide⟩
  offset := 7
  key := "k"
  eventType := ⟨"e", by decide⟩

/-- SHA-256 of the texts that the two projections hash. -/
def sampleDigests : List (String × String) :=
  [("", "e3b0c44298fc1c149afbf4c8996fb92427ae41e4649b934ca495991b7852b855"),
   ("\x7b\"by_key\":\x7b\x7d,\"event_count\":0,\"history\":" ++
      "\"e3b0c44298fc1c149afbf4c8996fb92427ae41e4649b934ca495991b7852b855\"\x7d",
    "aeecde7ae47cefc001f195996bc1d5d786fb2cb7be5c55a184d310ed90f0dda2"),
   ("\x7b\"event_type\":\"e\",\"key\":\"k\",\"offset\":7,\"partition\":0,\"payload\":null," ++
      "\"topic\":\"t\"\x7d\x1e",
    "ef6454015a0b8cf11349089c95bfa68b0995074a87175d05479fb84169adae38"),
   ("\x7b\"by_key\":\x7b\"k\":null\x7d,\"event_count\":1,\"history\":" ++
      "\"ef6454015a0b8cf11349089c95bfa68b0995074a87175d05479fb84169adae38\"\x7d",
    "66316be8732e7819588b9db2fb4bf54931ad2efe45042eca48afbc8ce3cdd870")]

def sampleSha256 (text : String) : String :=
  match OrderedDict.lookupEntry text sampleDigests with
  | some digest => digest
  | none => "#" ++ text

theorem sampleSha256_injective : Function.Injective sampleSha256 := by
  have listed {text digest : String}
      (found : OrderedDict.lookupEntry text sampleDigests = some digest) :
      (text, digest) ∈ sampleDigests := by
    have nodup : (sampleDigests.map Prod.fst).Nodup := by decide +kernel
    let dict : OrderedDict String String := ⟨sampleDigests, nodup⟩
    exact (OrderedDict.mem_entries : (text, digest) ∈ dict.entries ↔ _).2 found
  have apart : (sampleDigests.map Prod.snd).Nodup := by decide +kernel
  have unmarked : ∀ entry ∈ sampleDigests, entry.2.toList.head? ≠ some '#' := by decide +kernel
  intro a b equal
  unfold sampleSha256 at equal
  split at equal <;> split at equal
  · next d found _ d' found' =>
    have entries := List.inj_on_of_nodup_map apart (listed found) (listed found') equal
    exact (Prod.mk.inj entries).1
  · next d found _ _ =>
    have marked := unmarked _ (listed found)
    rw [equal, String.toList_append] at marked
    exact absurd rfl marked
  · next d found =>
    have marked := unmarked _ (listed found)
    rw [← equal, String.toList_append] at marked
    exact absurd rfl marked
  · exact String.append_right_inj _ |>.1 equal

/-- The empty sequence and that of one event have different checksums and tokens. -/
theorem projection_separates_sample :
    (projectDeliverySequence sampleSha256 {}).projectionChecksum =
        "aeecde7ae47cefc001f195996bc1d5d786fb2cb7be5c55a184d310ed90f0dda2" ∧
    (projectDeliverySequence sampleSha256 { sequence := [sampleEvent] }).projectionChecksum =
        "66316be8732e7819588b9db2fb4bf54931ad2efe45042eca48afbc8ce3cdd870" ∧
    ¬ List.Forall₂ ModelDeliveryEvent.Same
      ({} : ModelDeliveryReplayInput).sequence [sampleEvent] := by
  have empty : (projectDeliverySequence sampleSha256 {}).projectionChecksum =
      "aeecde7ae47cefc001f195996bc1d5d786fb2cb7be5c55a184d310ed90f0dda2" := by decide +kernel
  have single :
      (projectDeliverySequence sampleSha256 { sequence := [sampleEvent] }).projectionChecksum =
        "66316be8732e7819588b9db2fb4bf54931ad2efe45042eca48afbc8ce3cdd870" := by decide +kernel
  refine ⟨empty, single, ?_⟩
  intro same
  have checksums := ((projection_separates sampleSha256_injective).1
    {} { sequence := [sampleEvent] }).2 same
  rw [empty, single] at checksums
  revert checksums
  decide

end OmniMarket.DeliveryReplay
