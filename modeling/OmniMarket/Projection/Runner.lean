import OmniMarket.Lib.OrderedDict
import OmniMarket.Lib.PyValue
import OmniMarket.Lib.Trace

/-!
# Envelopes and errors of projection events

`unwrap_envelope`, the classification of projection errors and the envelope of a dead letter.
JSON, SHA-256 and the texts of values are a parameter, `ProjectionText`.
-/

namespace OmniMarket.Projection

abbrev Bytes := List UInt8

/-! ## Errors -/

inductive ExceptionType
  | validationError | poisonEventError
  | postgresError | interfaceError | osError | timeoutError
deriving DecidableEq

/-- An exception, with those of the named types that it is an instance of. -/
structure Raised where
  types : List ExceptionType := []
  text : String

inductive ProjectionErrorClass
  | poison | recoverable

def recoverableTypes : List ExceptionType :=
  [.postgresError, .interfaceError, .osError, .timeoutError]

def poisonTypes : List ExceptionType := [.validationError, .poisonEventError]

def classifyProjectionError (exc : Raised) : ProjectionErrorClass :=
  if exc.types.any (poisonTypes.contains ·) then .poison
  else if exc.types.any (recoverableTypes.contains ·) then .recoverable
  else .recoverable

/-! ## Envelopes -/

/-- The outcome of `json.loads`. -/
inductive Loaded
  | value (value : PyValue)
  /-- A `JSONDecodeError` or a `UnicodeDecodeError`. -/
  | malformed
  | raised (error : Raised)

structure DlqEnvelope where
  originalMessage : PyDict
  failureReason : String
  correlationId : String
  retryCount : ℕ := 0
  failedAt : String
  handler : String

/-- What the standard library supplies. -/
structure ProjectionText where
  loads : Bytes → Loaded
  /-- `json.dumps(envelope, default=str).encode("utf-8")`. -/
  dumps : DlqEnvelope → Except Raised Bytes
  /-- SHA-256 in hexadecimal. -/
  sha256 : String → String
  /-- `str(v)`. -/
  str : PyValue → String

def unwrapEnvelope (text : ProjectionText) (rawBytes : Bytes) : Except Raised (Option PyDict) :=
  match text.loads rawBytes with
  | .raised error => .error error
  | .malformed => .ok none
  | .value (.dict raw) =>
    match PyDict.get raw "payload" with
    | .dict payload => .ok (some (OrderedDict.setEntry "_envelope" (.dict raw) payload))
    | _ =>
      match PyDict.get raw "data" with
      | .dict data =>
        .ok (some (OrderedDict.setEntry "_correlation_id" (PyDict.get raw "correlation_id")
          (OrderedDict.setEntry "_event_type" (PyDict.get raw "event_type")
            (OrderedDict.setEntry "_envelope" (.dict raw) data))))
      | _ => .ok (some raw)
  | .value _ => .ok none

def deterministicCorrelationId (text : ProjectionText) (topic : String) (partition offset : ℕ) :
    String :=
  let raw := topic ++ ":" ++ toString partition ++ ":" ++ toString offset
  let hexDigest := (text.sha256 raw).toList.take 32
  let part (start stop : ℕ) : String := String.ofList ((hexDigest.take stop).drop start)
  part 0 8 ++ "-" ++ part 8 12 ++ "-" ++ part 12 16 ++ "-" ++ part 16 20 ++ "-" ++ part 20 32

/-- The first of the payload's ids that is set. -/
def correlationIdFromPayload (text : ProjectionText) (payload : PyDict) (fallback : String) :
    String :=
  match ([PyDict.get payload "correlation_id", PyDict.get payload "correlationId",
      PyDict.get payload "session_id", PyDict.get payload "sessionId"].find? PyValue.truthy) with
  | some value => text.str value
  | none => fallback

/-!
# The projection runner

`BaseProjectionRunner._handle_message` with the consumer around it: a machine whose events are
deliveries and restarts. A partition is a log of messages; a session delivers them in order from
the committed offset on, and an error that leaves `_handle_message` ends the session.

What the subclass, the broker and the database do in a delivery is part of the event.
-/

/-! ## Messages -/

structure TopicPartition where
  topic : String
  partition : ℕ
deriving DecidableEq

structure KafkaMessage where
  topic : String
  partition : ℕ
  offset : ℕ
  value : Option Bytes

def KafkaMessage.topicPartition (msg : KafkaMessage) : TopicPartition := ⟨msg.topic, msg.partition⟩

structure Log where
  messages : TopicPartition → List KafkaMessage
  own : ∀ partition, ∀ msg ∈ messages partition, msg.topicPartition = partition
  ordered : ∀ partition, (messages partition).Pairwise fun first second =>
    first.offset < second.offset

def Log.next (log : Log) (partition : TopicPartition) (position : ℕ) : Option KafkaMessage :=
  (log.messages partition).find? (position ≤ ·.offset)

structure MessageMeta where
  partition : ℕ
  offset : ℕ
  fallbackId : String

/-! ## The outside -/

inductive CommitOutcome
  | accepted
  | refused
  /-- The commit raises although the broker has stored it. -/
  | unanswered

/-- What the subclass, the broker and the database do while a message is handled. -/
structure Behaviour where
  projectEvent : String → PyDict → MessageMeta → Except Raised Bool
  publishDlq : String → Bytes → Except Raised Unit
  commit : CommitOutcome
  updateWatermark : Except Raised Unit
  now : String

/-- What a subclass declares. -/
structure RunnerEnv where
  text : ProjectionText
  poisonDlqTopics : List String
  handler : String

/-! ## State -/

structure TopicStats where
  projected : ℕ := 0
  errors : ℕ := 0

structure ProjectionStats where
  eventsProjected : ℕ := 0
  errorsCount : ℕ := 0
  lastProjectedAt : Option String := none
  topicStats : OrderedDict String TopicStats := .empty

structure Watermark where
  lastOffset : ℕ
  eventsProjected : ℕ

structure RunnerState where
  stats : ProjectionStats := {}
  watermarks : OrderedDict String Watermark := .empty
  /-- The dead letters published. -/
  dlq : List (String × Bytes) := []
  /-- The offsets that the broker has stored for the group. -/
  committed : OrderedDict TopicPartition ℕ := .empty
  /-- The positions of the running consumer, if there is one. -/
  session : Option (OrderedDict TopicPartition ℕ) := none

/-- Why `_handle_message` is left. -/
inductive Disposition
  | nonEvent
  | projected
  | notApplicable
  | poison (routed : Bool)
  | raised (error : Raised)

def ProjectionStats.countProjected (stats : ProjectionStats) (topic now : String) :
    ProjectionStats :=
  let held := (stats.topicStats.get? topic).getD {}
  { stats with
    eventsProjected := stats.eventsProjected + 1
    lastProjectedAt := some now
    topicStats := stats.topicStats.set topic { held with projected := held.projected + 1 } }

def ProjectionStats.countError (stats : ProjectionStats) (topic : String) : ProjectionStats :=
  let held := (stats.topicStats.get? topic).getD {}
  { stats with
    errorsCount := stats.errorsCount + 1
    topicStats := stats.topicStats.set topic { held with errors := held.errors + 1 } }

/-! ## Handling a message -/

section

variable (env : RunnerEnv) (outside : Behaviour)

section

variable (state : RunnerState)

/-- A commit that raises is logged. -/
def commitMessage (msg : KafkaMessage) : RunnerState :=
  match state.session with
  | none => state
  | some _ =>
    match outside.commit with
    | .refused => state
    | .accepted | .unanswered =>
      -- the broker has the offset, whether or not the consumer heard of it
      { state with committed := state.committed.set msg.topicPartition (msg.offset + 1) }

/-- An upsert that raises is logged. -/
def updateWatermark (projectionName : String) (offset : ℕ) : RunnerState :=
  match outside.updateWatermark with
  | .error _ => state
  | .ok _ =>
    let upserted : Watermark :=
      match state.watermarks.get? projectionName with
      | none => { lastOffset := offset, eventsProjected := 1 }
      | some held =>
        { lastOffset := max held.lastOffset offset, eventsProjected := held.eventsProjected + 1 }
    { state with watermarks := state.watermarks.set projectionName upserted }

/-- The dead letter of an event. -/
def poisonEnvelope (data : PyDict) (err : Raised) (metadata : MessageMeta) : DlqEnvelope where
  originalMessage := data
  failureReason := "poison projection error: " ++ err.text
  correlationId := correlationIdFromPayload env.text data metadata.fallbackId
  failedAt := outside.now
  handler := env.handler

/-- `_route_poison_to_dlq`, with whether an envelope was published. -/
def routePoisonToDlq (data : PyDict) (err : Raised) (metadata : MessageMeta) :
    Except Raised (RunnerState × Bool) :=
  match env.poisonDlqTopics with
  -- without a declared topic there is no dead letter
  | [] => .ok (state, false)
  | dlqTopic :: _ =>
    match env.text.dumps (poisonEnvelope env outside data err metadata) with
    | .error raised => .error raised
    | .ok value =>
      match outside.publishDlq dlqTopic value with
      | .error _ => .ok (state, false)
      | .ok _ => .ok ({ state with dlq := state.dlq ++ [(dlqTopic, value)] }, true)

/-- The error of reading `meta` before it is bound. -/
def unboundMeta : Raised :=
  { text := "cannot access local variable 'meta' where it is not associated with a value" }

/-- The `except` block; `metadata` is `none` while `meta` is not bound. -/
def handleError (msg : KafkaMessage) (data : PyDict) (metadata : Option MessageMeta)
    (err : Raised) : RunnerState × Disposition :=
  let state := { state with stats := state.stats.countError msg.topic }
  match classifyProjectionError err with
  | .recoverable => (state, .raised err)
  | .poison =>
    match metadata with
    -- the error came before `meta` was bound, and the branch reads it
    | none => (state, .raised unboundMeta)
    | some metadata =>
      match routePoisonToDlq env outside state data err metadata with
      | .error raised => (state, .raised raised)
      | .ok (state, routed) => (commitMessage outside state msg, .poison routed)

/-- The `meta` of a message. -/
def metaOf (msg : KafkaMessage) : MessageMeta where
  partition := msg.partition
  offset := msg.offset
  fallbackId := deterministicCorrelationId env.text msg.topic msg.partition msg.offset

def handleMessage (msg : KafkaMessage) : RunnerState × Disposition :=
  match msg.value with
  | none => (commitMessage outside state msg, .nonEvent)
  | some value =>
    match unwrapEnvelope env.text value with
    | .error err => handleError env outside state msg [] none err
    | .ok none => (commitMessage outside state msg, .nonEvent)
    | .ok (some data) =>
      match outside.projectEvent msg.topic data (metaOf env msg) with
      | .error err => handleError env outside state msg data (some (metaOf env msg)) err
      | .ok false => (commitMessage outside state msg, .notApplicable)
      | .ok true =>
        let state :=
          { state with stats := state.stats.countProjected msg.topic outside.now }
        let state := updateWatermark outside state
          (msg.topic ++ ":" ++ toString msg.partition) msg.offset
        (commitMessage outside state msg, .projected)

end

end

/-! ## Sessions -/

inductive RunnerEvent
  /-- The consumer asks for the next message of a partition. -/
  | delivery (partition : TopicPartition) (outside : Behaviour)
  /-- The consumer is stopped, by whatever cause, and started again. -/
  | restart

structure Handled where
  message : KafkaMessage
  disposition : Disposition
  /-- The dead letters published meanwhile. -/
  published : List (String × Bytes)

def runnerStep (env : RunnerEnv) (log : Log) (state : RunnerState) :
    RunnerEvent → RunnerState × Option Handled
  | .restart => ({ state with session := some state.committed }, none)
  | .delivery partition outside =>
    match state.session with
    | none => (state, none)
    | some positions =>
      match log.next partition ((positions.get? partition).getD 0) with
      | none => (state, none)
      | some msg =>
        -- the position moves when the message is fetched, before it is handled
        let fetched := { state with session := some (positions.set partition (msg.offset + 1)) }
        let (after, disposition) := handleMessage env outside fetched msg
        let handled := ⟨msg, disposition, after.dlq.drop fetched.dlq.length⟩
        match disposition with
        | .raised _ => ({ after with session := none }, some handled)
        | _ => (after, some handled)

end OmniMarket.Projection
