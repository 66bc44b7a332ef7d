import OmniMarket.Lib.OrderedDict
import OmniMarket.Lib.PyText
import OmniMarket.Lib.PyValue

/-!
# Session replay

`HandlerProjectionSessionReplay`: events of the lifecycle of sessions become rows of
`session_replay_snapshots`, keyed by an identifier derived from the session and the sequence
number. SHA-256 in hexadecimal and the clock are parameters.
-/

namespace OmniMarket.SessionReplay

/-! ## Data -/

structure ModelSessionReplayEvent where
  sessionId : String
  timestamp : Option String := none
  promptPreview : Option String := none
  promptLength : Option ℕ := none
  toolName : Option String := none
  toolInput : Option PyDict := none
  outcome : Option String := none
  tokensUsed : Option ℕ := none
  totalTokens : Option ℕ := none

structure ModelReplaySnapshotRow where
  snapshotId : String
  sessionId : String
  sequence : ℕ
  timestamp : String
  eventType : String
  nodeName : String
  stateDelta : PyDict
  cumulativeTokens : ℕ
  isCheckpoint : Bool

structure ModelSessionReplayState where
  sequence : ℕ := 0
  cumulativeTokens : ℕ := 0

structure ModelProjectionReplayResult where
  rowsUpserted : ℕ := 0
  table : String := "session_replay_snapshots"

/-! ## Topics -/

def topicSessionStarted : String := "onex.evt.omniclaude.session-started.v1"
def topicPromptSubmitted : String := "onex.evt.omniclaude.prompt-submitted.v1"
def topicToolExecuted : String := "onex.evt.omniclaude.tool-executed.v1"
def topicSessionOutcome : String := "onex.evt.omniclaude.session-outcome.v1"
def topicSessionEnded : String := "onex.evt.omniclaude.session-ended.v1"

/-- Topic, event type, node name and whether the row is a checkpoint. -/
def topicMap : List (String × String × String × Bool) :=
  [(topicSessionStarted, "session_start", "session", true),
   (topicPromptSubmitted, "user_input", "user", false),
   (topicToolExecuted, "tool_call", "", false),
   (topicSessionOutcome, "checkpoint", "session", true),
   (topicSessionEnded, "session_end", "session", true)]

/-! ## The reducer -/

section

variable (sha256 : String → String)

def deriveSnapshotId (sessionId : String) (sequence : ℕ) : String :=
  let digest := (sha256 (sessionId ++ "::" ++ toString sequence)).toList
  let part (start stop : ℕ) : String := String.ofList ((digest.take stop).drop start)
  part 0 8 ++ "-" ++ part 8 12 ++ "-" ++ part 12 16 ++ "-" ++ part 16 20 ++ "-" ++ part 20 32

def classifyEvent (topic : String) (event : ModelSessionReplayEvent) : String × String × Bool :=
  match topicMap.lookup topic with
  | some (eventType, nodeName, isCheckpoint) =>
    if eventType == "tool_call" && PyText.textTruthy event.toolName then
      (eventType, event.toolName.getD "", isCheckpoint)
    else (eventType, nodeName, isCheckpoint)
  | none => ("event", "unknown", false)

def optionalEntry (key : String) (field : Option PyValue) : PyDict :=
  match field with
  | some value => [(key, value)]
  | none => []

def extractStateDelta (topic : String) (event : ModelSessionReplayEvent) : PyDict :=
  if topic = topicSessionStarted then [("session_id", .str event.sessionId)]
  else if topic = topicPromptSubmitted then
    optionalEntry "prompt_preview" (event.promptPreview.map .str) ++
      optionalEntry "prompt_length" (event.promptLength.map fun length => .int length)
  else if topic = topicToolExecuted then
    optionalEntry "tool_name" (event.toolName.map .str) ++
      optionalEntry "tool_input" (event.toolInput.map .dict)
  else if topic = topicSessionOutcome then
    [("outcome", .str (PyText.textOrElse event.outcome "unknown"))]
  else if topic = topicSessionEnded then [("session_id", .str event.sessionId)]
  else []

/-- One event reduced to its row, at the time `now` of the clock. -/
def accumulate (now : String) (state : ModelSessionReplayState) (event : ModelSessionReplayEvent)
    (topic : String) :
    ModelSessionReplayState × ModelReplaySnapshotRow :=
  let timestamp := PyText.textOrElse event.timestamp now
  let (eventType, nodeName, isCheckpoint) := classifyEvent topic event
  let newCumulative := state.cumulativeTokens + event.tokensUsed.getD 0
  ({ sequence := state.sequence + 1, cumulativeTokens := newCumulative },
   { snapshotId := deriveSnapshotId sha256 event.sessionId state.sequence
     sessionId := event.sessionId
     sequence := state.sequence
     timestamp := timestamp
     eventType := eventType
     nodeName := nodeName
     stateDelta := extractStateDelta topic event
     cumulativeTokens := newCumulative
     isCheckpoint := isCheckpoint })

/-! ## The table -/

/-- The rows of `session_replay_snapshots`, by `snapshot_id`. -/
abbrev Table := OrderedDict String ModelReplaySnapshotRow

/-- A row in place of that with its `snapshot_id`, or after the others. -/
def upsert (db : Table) (row : ModelReplaySnapshotRow) : Table := db.set row.snapshotId row

/-- Without a state of the caller's, the event is reduced from a fresh one; the next state is
dropped. -/
def project (now : String) (event : ModelSessionReplayEvent) (db : Table) (topic : String)
    (state : Option ModelSessionReplayState := none) :
    ModelProjectionReplayResult × Table :=
  let currentState := state.getD {}
  let (_, row) := accumulate sha256 now currentState event topic
  ({ rowsUpserted := 1 }, upsert db row)

/-- `handle()` requires a database. -/
inductive HandleError
  | typeError (message : String)

/-- What a delivery passes to `handle`: the event, the topic and the time of the clock. -/
structure Delivery where
  event : ModelSessionReplayEvent
  topic : Option String := none
  now : String

def Delivery.topicName (delivery : Delivery) : String := delivery.topic.getD topicSessionStarted

/-- `db` is `none` where `_db` is missing or no database adapter. -/
def handle (sha256 : String → String) (db : Option Table) (delivery : Delivery) :
    Except HandleError (ModelProjectionReplayResult × Table) :=
  match db with
  | none => .error (.typeError "handle() requires a DatabaseAdapter in input_data['_db']")
  | some db => .ok (project sha256 delivery.now delivery.event db delivery.topicName)

def deliverAll (db : Table) (deliveries : List Delivery) :
    Except HandleError Table :=
  deliveries.foldlM (fun db delivery => Prod.snd <$> handle sha256 (some db) delivery) db

end

/-! ## Every event kept -/

def ofSession (deliveries : List Delivery) (sessionId : String) : List Delivery :=
  deliveries.filter fun delivery => delivery.event.sessionId = sessionId

/-- Row `k` of a session carries its `k`-th event, with the tokens up to it. -/
def Carries (events : List Delivery) (k : ℕ) (row : ModelReplaySnapshotRow) : Prop :=
  row.sequence = k ∧
    (∀ delivery ∈ events[k]?,
      row.eventType = (classifyEvent delivery.topicName delivery.event).1 ∧
      row.stateDelta = extractStateDelta delivery.topicName delivery.event) ∧
    row.cumulativeTokens =
      ((events.take (k + 1)).map fun delivery => delivery.event.tokensUsed.getD 0).sum

def KeepsEvery (deliveries : List Delivery) (rows : List ModelReplaySnapshotRow) : Prop :=
  ∀ sessionId,
    (rows.filter fun row => row.sessionId = sessionId).length =
        (ofSession deliveries sessionId).length ∧
      ∀ k < (ofSession deliveries sessionId).length,
        ∃ row ∈ rows, row.sessionId = sessionId ∧ Carries (ofSession deliveries sessionId) k row

/-!
# Rows of a session overwrite each other

`handle` passes no state on, so every event of a session is reduced from a fresh state and
becomes row 0.

1. `keepsEvery_iff`: after a run, every event has its row iff no two deliveries derive the same
   identifier from their session and the number 0.
2. `two_events_one_row`: a session of two events is left with one row.
-/

section

variable {sha256 : String → String}

def freshRow (sha256 : String → String) (delivery : Delivery) : ModelReplaySnapshotRow :=
  (accumulate sha256 delivery.now {} delivery.event delivery.topicName).2

/-- The identifier under which a delivery is stored. -/
def freshId (sha256 : String → String) (delivery : Delivery) : String :=
  deriveSnapshotId sha256 delivery.event.sessionId 0

theorem freshRow_sessionId (delivery : Delivery) :
    (freshRow sha256 delivery).sessionId = delivery.event.sessionId := rfl

def tableOf (sha256 : String → String) (deliveries : List Delivery) : Table :=
  OrderedDict.foldByKey (freshId sha256) (fun _ delivery => freshRow sha256 delivery) .empty
    deliveries

theorem deliverAll_eq (db : Table) (deliveries : List Delivery) :
    deliverAll sha256 db deliveries = .ok
      (OrderedDict.foldByKey (freshId sha256) (fun _ delivery => freshRow sha256 delivery)
        db deliveries) := by
  induction deliveries generalizing db with
  | nil => rfl
  | cons delivery rest ih =>
    have step := ih (db.set (freshId sha256 delivery) (freshRow sha256 delivery))
    rw [deliverAll, List.foldlM_cons]
    exact step

variable {deliveries : List Delivery}

theorem get?_run {key : String} {row : ModelReplaySnapshotRow}
    (held : (tableOf sha256 deliveries).get? key = some row) :
    ∃ delivery ∈ deliveries, key = freshId sha256 delivery ∧ row = freshRow sha256 delivery := by
  induction deliveries using List.reverseRecOn with
  | nil => cases held
  | append_singleton before delivery ih =>
    rw [tableOf, OrderedDict.foldByKey_append] at held
    by_cases own : key = freshId sha256 delivery
    · subst own
      refine ⟨delivery, by simp, rfl, ?_⟩
      exact (Option.some.inj ((OrderedDict.get?_set_self _ _ _).symm.trans held)).symm
    · obtain ⟨earlier, listed, key, row⟩ :=
        ih ((OrderedDict.get?_set_other own).symm.trans held)
      exact ⟨earlier, List.mem_append_left _ listed, key, row⟩

theorem ofSession_length (deliveries : List Delivery) (sessionId : String) :
    (ofSession deliveries sessionId).length =
      (deliveries.map fun delivery => delivery.event.sessionId).count sessionId := by
  rw [ofSession, ← List.countP_eq_length_filter, List.count, List.countP_map]
  rfl

theorem carries_single (delivery : Delivery) : Carries [delivery] 0 (freshRow sha256 delivery) := by
  refine ⟨rfl, ?_, ?_⟩
  · rintro other ⟨⟩
    exact ⟨rfl, rfl⟩
  · simp [freshRow, accumulate]

theorem keepsEvery_of_nodup (nodup : (deliveries.map (freshId sha256)).Nodup) :
    KeepsEvery deliveries (tableOf sha256 deliveries).values := by
  have rows : (tableOf sha256 deliveries).values = deliveries.map (freshRow sha256) := by
    rw [OrderedDict.values, tableOf, OrderedDict.foldByKey_distinct nodup, List.map_map]
    rfl
  have sessions : (deliveries.map fun delivery => delivery.event.sessionId).Nodup := by
    have ids : deliveries.map (freshId sha256) =
        (deliveries.map fun delivery => delivery.event.sessionId).map
          (deriveSnapshotId sha256 · 0) := by
      rw [List.map_map]
      rfl
    exact (ids ▸ nodup).of_map
  intro sessionId
  rw [rows]
  constructor
  · rw [List.filter_map, List.length_map]
    rfl
  · intro k small
    have one := List.nodup_iff_count_le_one.1 sessions sessionId
    rw [← ofSession_length] at one
    obtain ⟨delivery, single⟩ : ∃ delivery, ofSession deliveries sessionId = [delivery] :=
      List.length_eq_one_iff.1 (by omega)
    have listed : delivery ∈ ofSession deliveries sessionId := by
      rw [single]
      exact List.mem_singleton.2 rfl
    obtain ⟨among, own⟩ := List.mem_filter.1 listed
    obtain rfl : k = 0 := by omega
    refine ⟨freshRow sha256 delivery, List.mem_map_of_mem among, of_decide_eq_true own, ?_⟩
    rw [single]
    exact carries_single delivery

theorem sessions_nodup (keeps : KeepsEvery deliveries (tableOf sha256 deliveries).values) :
    (deliveries.map fun delivery => delivery.event.sessionId).Nodup := by
  refine List.nodup_iff_count_le_one.2 fun sessionId => ?_
  rw [← ofSession_length]
  by_contra many
  -- The second event of the session would need a row with number 1.
  obtain ⟨row, stored, -, carries⟩ := (keeps sessionId).2 1 (Nat.lt_of_not_le many)
  obtain ⟨key, held⟩ := OrderedDict.mem_values.1 stored
  obtain ⟨delivery, -, -, rfl⟩ := get?_run held
  exact absurd carries.1 Nat.zero_ne_one

theorem nodup_of_keepsEvery (keeps : KeepsEvery deliveries (tableOf sha256 deliveries).values) :
    (deliveries.map (freshId sha256)).Nodup := by
  have sessions := sessions_nodup keeps
  -- The row that the session of a delivery has is stored under the delivery's identifier.
  have stored {delivery : Delivery} (listed : delivery ∈ deliveries) :
      ∃ row, (tableOf sha256 deliveries).get? (freshId sha256 delivery) = some row ∧
        row.sessionId = delivery.event.sessionId := by
    have some_event : 0 < (ofSession deliveries delivery.event.sessionId).length :=
      List.length_pos_of_mem (List.mem_filter.2 ⟨listed, decide_eq_true rfl⟩)
    obtain ⟨row, value, own, -⟩ := (keeps delivery.event.sessionId).2 0 some_event
    obtain ⟨key, held⟩ := OrderedDict.mem_values.1 value
    obtain ⟨other, -, rfl, rfl⟩ := get?_run held
    have same : freshId sha256 delivery = freshId sha256 other := by
      rw [freshId, freshId, ← own, freshRow_sessionId]
    rw [same]
    exact ⟨_, held, own⟩
  refine sessions.of_map.map_on ?_
  intro first inFirst second inSecond equal
  obtain ⟨row, held, own⟩ := stored inFirst
  obtain ⟨row', held', own'⟩ := stored inSecond
  rw [equal, held', Option.some_inj] at held
  rw [held] at own'
  exact List.inj_on_of_nodup_map sessions inFirst inSecond (own.symm.trans own')

/-- A run leaves a row for every event iff no two deliveries share the identifier that their
session has for row 0. -/
theorem keepsEvery_iff (sha256 : String → String) (deliveries : List Delivery) :
    ∃ table, deliverAll sha256 .empty deliveries = .ok table ∧
      (KeepsEvery deliveries table.values ↔
        (deliveries.map fun delivery =>
          deriveSnapshotId sha256 delivery.event.sessionId 0).Nodup) :=
  ⟨_, deliverAll_eq .empty deliveries, nodup_of_keepsEvery, keepsEvery_of_nodup⟩

def sampleDeliveries : List Delivery :=
  [{ event := { sessionId := "s", tokensUsed := some 3 }
     topic := some topicSessionStarted
     now := "2026-01-01T00:00:00+00:00" },
   { event := { sessionId := "s", promptLength := some 12, tokensUsed := some 5 }
     topic := some topicPromptSubmitted
     now := "2026-01-01T00:00:01+00:00" }]

/-- SHA-256 of `s::0`, the only text that the run hashes. -/
def sampleSha256 (_ : String) : String :=
  "fd85d34987339f69934565f99f39e58c47c1b19985b66d7eab63293838a9bbc2"

/-- The prompt's row is stored over the start's, with the prompt's tokens alone. -/
theorem two_events_one_row :
    ∃ table, deliverAll sampleSha256 .empty sampleDeliveries = .ok table ∧
      table.values.map (fun row => (row.sequence, row.eventType, row.cumulativeTokens)) =
        [(0, "user_input", 5)] ∧
      ¬ KeepsEvery sampleDeliveries table.values := by
  refine ⟨tableOf sampleSha256 sampleDeliveries, deliverAll_eq _ _, by decide +kernel, ?_⟩
  intro keeps
  have sessions := sessions_nodup keeps
  revert sessions
  decide

end

end OmniMarket.SessionReplay
