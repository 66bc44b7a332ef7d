import Mathlib.Data.Int.Order.Basic
import OmniMarket.EmitDaemon.Outbox

/-!
# The tiered event queue

`BoundedEventQueue` routes an event by its tier: a duty-critical event goes to the durable
outbox, a telemetry event to the bounded memory queue and from there to the disk spool, which
drops its oldest events.
-/

namespace OmniMarket.EmitDaemon

structure QueueLimits where
  maxMemoryQueue : ℤ := 100
  maxSpoolMessages : ℤ := 1000
  maxSpoolBytes : ℤ := 10485760

structure BoundedEventQueue where
  limits : QueueLimits
  memoryQueue : List ModelQueuedEvent
  spoolFiles : List FileName
  spoolBytes : ℕ
  spoolDirectory : Directory
  outbox : DurableOutbox
  inFlightOutbox : OrderedDict String OutboxRecord

namespace BoundedEventQueue

/-! ## Enqueue -/

/-- `_drop_oldest_spool` for the first of the spooled files. -/
def dropOldestSpool (io : DiskIO) (queue : BoundedEventQueue) (oldest : FileName)
    (rest : List FileName) : BoundedEventQueue :=
  let dropped := do
    let fileSize ← stat io queue.spoolDirectory oldest
    let directory ← unlink io queue.spoolDirectory oldest
    return (fileSize, directory)
  match dropped with
  | some (fileSize, directory) =>
    { queue with
      spoolFiles := rest
      spoolBytes := queue.spoolBytes - fileSize
      spoolDirectory := directory }
  | none => { queue with spoolFiles := rest }

/-- The `while` loop of `_spool_event`; `files` are the spooled files. -/
def makeRoom (io : DiskIO) (eventBytes : ℕ) (queue : BoundedEventQueue) :
    List FileName → BoundedEventQueue
  | [] => queue
  | oldest :: rest =>
    if queue.limits.maxSpoolMessages ≤ (rest.length + 1 : ℕ) ∨
        queue.limits.maxSpoolBytes < (queue.spoolBytes + eventBytes : ℕ) then
      makeRoom io eventBytes (dropOldestSpool io queue oldest rest) rest
    else queue

/-- `max_spool_messages == 0 or max_spool_bytes == 0`. -/
def spoolingDisabled (limits : QueueLimits) : Bool :=
  limits.maxSpoolMessages == 0 || limits.maxSpoolBytes == 0

section

variable (codec : EventCodec)

section

variable (io : DiskIO)

section

variable (queue : BoundedEventQueue)

def spoolEvent (event : ModelQueuedEvent) :
    BoundedEventQueue × Bool :=
  if spoolingDisabled queue.limits then (queue, false)
  else
    match codec.dumpJson event with
    | none => (queue, false)
    | some eventJson =>
      let eventBytes := encodedSize eventJson
      let queue := makeRoom io eventBytes queue queue.spoolFiles
      if queue.limits.maxSpoolBytes < (eventBytes : ℕ) then (queue, false)
      else if io.mkdirRaises then (queue, false)
      else
        let filepath : FileName := ⟨io.now, event.eventId.value⟩
        let directory := writeText queue.spoolDirectory filepath eventJson io.write
        match io.write with
        | .raised _ => ({ queue with spoolDirectory := directory }, false)
        | .written =>
          ({ queue with
              spoolFiles := queue.spoolFiles ++ [filepath]
              spoolBytes := queue.spoolBytes + eventBytes
              spoolDirectory := directory }, true)

/-- The result is whether the event was accepted. -/
def enqueue (event : ModelQueuedEvent) :
    BoundedEventQueue × Except AppendError Bool :=
  match event.tier with
  | .dutyCritical =>
    let appended := queue.outbox.append codec io event
    ({ queue with outbox := appended.1 }, appended.2.map fun _ => true)
  | .telemetry =>
    if (queue.memoryQueue.length : ℕ) < queue.limits.maxMemoryQueue then
      ({ queue with memoryQueue := queue.memoryQueue ++ [event] }, .ok true)
    else
      -- with spooling disabled the event is dropped here, before `_spool_event`
      if spoolingDisabled queue.limits then (queue, .ok false)
      else
        let spooled := spoolEvent codec io queue event
        (spooled.1, .ok spooled.2)

/-- `_dequeue_from_spool` for the first of the spooled files. -/
def dequeueFromSpool (filepath : FileName) (rest : List FileName) :
    BoundedEventQueue × Option ModelQueuedEvent :=
  let directory := (unlink io queue.spoolDirectory filepath).getD queue.spoolDirectory
  let queue := { queue with spoolFiles := rest }
  match readText io queue.spoolDirectory filepath with
  | none => ({ queue with spoolDirectory := directory }, none)
  | some content =>
    match codec.validateJson content with
    | none =>
      let fileSize := (stat io queue.spoolDirectory filepath).getD 0
      ({ queue with
          spoolBytes := queue.spoolBytes - fileSize
          spoolDirectory := directory }, none)
    | some event =>
      let fileSize := (stat io queue.spoolDirectory filepath).getD (readSize content)
      ({ queue with
          spoolBytes := queue.spoolBytes - fileSize
          spoolDirectory := directory }, some event)

def dequeue :
    BoundedEventQueue × Option ModelQueuedEvent :=
  match queue.outbox.peek with
  | some record =>
    ({ queue with
        inFlightOutbox := queue.inFlightOutbox.set record.event.eventId.value record },
      some record.event)
  | none =>
    match queue.memoryQueue, queue.spoolFiles with
    | event :: rest, _ => ({ queue with memoryQueue := rest }, some event)
    | [], filepath :: rest => dequeueFromSpool codec io queue filepath rest
    | [], [] => (queue, none)

/-! ## Acknowledgement -/

def ack (event : ModelQueuedEvent) :
    BoundedEventQueue :=
  match queue.inFlightOutbox.get? event.eventId.value with
  | none => queue
  | some record =>
    { queue with
      inFlightOutbox := queue.inFlightOutbox.erase event.eventId.value
      outbox := queue.outbox.ack io record }

def loadOutbox :
    BoundedEventQueue :=
  { queue with outbox := queue.outbox.loadPending codec io }

/-- The body of the loop of `load_spool`. -/
def loadSpoolFile (filepath : FileName) :
    BoundedEventQueue :=
  match stat io queue.spoolDirectory filepath with
  | none => queue
  | some fileSize =>
    { queue with
      spoolFiles := queue.spoolFiles ++ [filepath]
      spoolBytes := queue.spoolBytes + fileSize }

def loadSpool : BoundedEventQueue :=
  (sortedFiles queue.spoolDirectory).foldl (loadSpoolFile io)
    { queue with spoolFiles := [], spoolBytes := 0 }

end

/-- The loop of `drain_to_spool` over the events in memory; `io` is the disk at each event. The
result counts the events that were spooled. -/
def drainEvents (codec : EventCodec) (io : ℕ → DiskIO) (queue : BoundedEventQueue) :
    List ModelQueuedEvent → BoundedEventQueue × ℕ
  | [] => (queue, 0)
  | event :: rest =>
    let spooled := spoolEvent codec (io 0) { queue with memoryQueue := rest } event
    let drained := drainEvents codec (fun index => io (index + 1)) spooled.1 rest
    (drained.1, if spooled.2 then drained.2 + 1 else drained.2)

def drainToSpool (io : ℕ → DiskIO) (queue : BoundedEventQueue) :
    BoundedEventQueue × ℕ :=
  if spoolingDisabled queue.limits then (queue, 0)
  else drainEvents codec io queue queue.memoryQueue

/-- The queue of a process that starts on the directories: nothing is in memory but what it
loads. -/
def restart (limits : QueueLimits) (outboxLimits : OutboxLimits)
    (spoolDirectory outboxDirectory : Directory) :
    BoundedEventQueue :=
  let fresh : BoundedEventQueue :=
    { limits := limits
      memoryQueue := []
      spoolFiles := []
      spoolBytes := 0
      spoolDirectory := spoolDirectory
      outbox := ⟨outboxLimits, [], 0, outboxDirectory⟩
      inFlightOutbox := .empty }
  (fresh.loadSpool io).loadOutbox codec io

end

end

/-! ## Frame conditions -/

section

variable {codec : EventCodec} {io : DiskIO} {queue : BoundedEventQueue}
  {event : ModelQueuedEvent}

/-- The two queues differ in their spools at most. -/
structure SameButSpool (queue next : BoundedEventQueue) : Prop where
  limits : next.limits = queue.limits
  memoryQueue : next.memoryQueue = queue.memoryQueue
  outbox : next.outbox = queue.outbox
  inFlightOutbox : next.inFlightOutbox = queue.inFlightOutbox

theorem SameButSpool.trans {first second third : BoundedEventQueue}
    (before : SameButSpool first second) (after : SameButSpool second third) :
    SameButSpool first third where
  limits := after.limits.trans before.limits
  memoryQueue := after.memoryQueue.trans before.memoryQueue
  outbox := after.outbox.trans before.outbox
  inFlightOutbox := after.inFlightOutbox.trans before.inFlightOutbox

theorem dropOldestSpool_frame (io : DiskIO) (queue : BoundedEventQueue) (oldest : FileName)
    (rest : List FileName) : SameButSpool queue (dropOldestSpool io queue oldest rest) := by
  unfold dropOldestSpool
  dsimp only
  split <;> exact ⟨rfl, rfl, rfl, rfl⟩

theorem makeRoom_frame (io : DiskIO) (eventBytes : ℕ) (queue : BoundedEventQueue)
    (files : List FileName) : SameButSpool queue (makeRoom io eventBytes queue files) := by
  induction files generalizing queue with
  | nil => exact ⟨rfl, rfl, rfl, rfl⟩
  | cons oldest rest ih =>
    rw [makeRoom]
    split
    · exact (dropOldestSpool_frame io queue oldest rest).trans (ih _)
    · exact ⟨rfl, rfl, rfl, rfl⟩

theorem spoolEvent_frame (codec : EventCodec) (io : DiskIO) (queue : BoundedEventQueue)
    (event : ModelQueuedEvent) : SameButSpool queue (spoolEvent codec io queue event).1 := by
  unfold spoolEvent
  split
  · exact ⟨rfl, rfl, rfl, rfl⟩
  · split
    · exact ⟨rfl, rfl, rfl, rfl⟩
    · next eventJson _ =>
      have room := makeRoom_frame io (encodedSize eventJson) queue queue.spoolFiles
      dsimp only
      split
      · exact room
      · split
        · exact room
        · split
          · exact room.trans ⟨rfl, rfl, rfl, rfl⟩
          · exact room.trans ⟨rfl, rfl, rfl, rfl⟩

theorem spoolEvent_taken : (spoolEvent codec io queue event).2 = true ↔
    spoolingDisabled queue.limits = false ∧ ∃ eventJson, codec.dumpJson event = some eventJson ∧
      (encodedSize eventJson : ℤ) ≤ queue.limits.maxSpoolBytes ∧ io.mkdirRaises = false ∧
      io.write = .written := by
  unfold spoolEvent
  cases disabled : spoolingDisabled queue.limits with
  | true => simp
  | false =>
    cases dumped : codec.dumpJson event with
    | none => simp
    | some eventJson =>
      have limits := (makeRoom_frame io (encodedSize eventJson) queue queue.spoolFiles).limits
      dsimp only
      rw [limits]
      by_cases fits : queue.limits.maxSpoolBytes < (encodedSize eventJson : ℕ)
      · simp [fits]
      · have size := Int.not_lt.1 fits
        cases mkdir : io.mkdirRaises <;> cases write : io.write <;> simp [fits, size]

theorem enqueue_duty (duty : event.tier = .dutyCritical) :
    queue.enqueue codec io event =
      ({ queue with outbox := (queue.outbox.append codec io event).1 },
        (queue.outbox.append codec io event).2.map fun _ => true) := by
  unfold enqueue
  rw [duty]

theorem enqueue_telemetry (codec : EventCodec) (io : DiskIO) (queue : BoundedEventQueue)
    (telemetry : event.tier = .telemetry) :
    ∃ accepted, (queue.enqueue codec io event).2 = .ok accepted ∧
      (queue.enqueue codec io event).1.outbox = queue.outbox ∧
      (queue.enqueue codec io event).1.inFlightOutbox = queue.inFlightOutbox ∧
      (accepted = true ↔ (queue.memoryQueue.length : ℤ) < queue.limits.maxMemoryQueue ∨
        (spoolEvent codec io queue event).2 = true) ∧
      (accepted = false → (queue.enqueue codec io event).1.memoryQueue = queue.memoryQueue ∧
        (queue.enqueue codec io event).1.limits = queue.limits) := by
  unfold enqueue
  rw [telemetry]
  dsimp only
  by_cases room : (queue.memoryQueue.length : ℤ) < queue.limits.maxMemoryQueue
  · rw [if_pos room]
    exact ⟨true, rfl, rfl, rfl, ⟨fun _ => .inl room, fun _ => rfl⟩, nofun⟩
  · rw [if_neg room]
    cases disabled : spoolingDisabled queue.limits with
    | true =>
      rw [if_pos rfl]
      refine ⟨false, rfl, rfl, rfl, ⟨nofun, ?_⟩, fun _ => ⟨rfl, rfl⟩⟩
      rintro (room' | spooled)
      · exact absurd room' room
      · rw [spoolEvent_taken, disabled] at spooled
        exact absurd spooled.1.symm Bool.false_ne_true
    | false =>
      rw [if_neg Bool.false_ne_true]
      have frame := spoolEvent_frame codec io queue event
      refine ⟨_, rfl, frame.outbox, frame.inFlightOutbox, ?_, fun _ =>
        ⟨frame.memoryQueue, frame.limits⟩⟩
      exact ⟨.inr, fun accepted => accepted.resolve_left room⟩

end

end BoundedEventQueue

/-!
# The emit request

`EmitSocketServer._handle_emit` looks up the registration of an event type and enqueues one
event for each of its fan-out rules. The clock, fresh ids, the JSON encoder and the disk are
parameters. A rule's transform is any function on payloads, and it may raise.
-/

/-! ## The registry -/

/-- `none` when the transform raises. -/
abbrev PayloadTransform := PyDict → Option PyDict

structure FanOutRule where
  topic : String
  tier : EnumDurabilityTier
  transform : Option PayloadTransform := none

def FanOutRule.applyTransform (rule : FanOutRule) (payload : PyDict) : Option PyDict :=
  match rule.transform with
  | none => some payload
  | some transform => transform payload

structure EventRegistration where
  eventType : String
  fanOut : List FanOutRule := []
  partitionKeyField : Option String := none
  requiredFields : List String := []

abbrev EventRegistry := OrderedDict String EventRegistration

namespace EventRegistry

def getRegistration (registry : EventRegistry) (eventType : String) : Option EventRegistration :=
  registry.get? eventType

def validatePayload (registry : EventRegistry) (eventType : String) (payload : PyDict) :
    Except String (List String) :=
  match registry.getRegistration eventType with
  | none => .error ("Unknown event type: " ++ eventType)
  | some registration =>
    .ok (registration.requiredFields.filter fun field => (payload.get? field).isNone)

/-- The partition key; `none` on the outside for an unknown event type. -/
def getPartitionKey (registry : EventRegistry) (str : PyValue → String) (eventType : String)
    (payload : PyDict) : Option (Option String) :=
  match registry.getRegistration eventType with
  | none => none
  | some registration =>
    match registration.partitionKeyField with
    | none => some none
    | some field =>
      let value := payload.get field
      if value.isNone then some none else some (some (str value))

end EventRegistry

/-! ## Requests and replies -/

structure ModelDaemonEmitRequest where
  eventType : NonEmptyString
  payload : PyValue := .dict []

inductive EmitReply where
  | queued (eventId : NonEmptyString)
  | error (reason : String)

inductive EmitError where
  | transformRaised
  | emptyTopic
  | appendRaised (error : AppendError)

structure EmitEnv where
  maxPayloadBytes : ℤ := 1048576
  registry : EventRegistry
  codec : EventCodec
  unicode : UnicodeTable
  /-- `json.dumps`; `none` when it raises `TypeError` or `ValueError`. -/
  jsonDumps : PyDict → Option String
  /-- `str(v)`. -/
  str : PyValue → String
  freshCorrelationId : String
  emittedAt : String
  /-- `CLAUDE_CODE_SESSION_ID`. -/
  sessionIdVariable : String
  /-- Whether `UUID(text)` accepts the text. -/
  isUuid : String → Bool
  /-- `str(UUID(sha256(text).hexdigest()[:32]))`. -/
  hashedUuid : String → String

/-- What one fan-out rule draws from the world: the event's id, the clock and the disk. -/
structure RuleIO where
  eventId : NonEmptyString
  queuedAt : ℕ
  disk : DiskIO

/-- `result[key] = value` unless the condition on the held value says to keep it. -/
def setUnless (keep : Option PyValue → Bool) (key : String) (value : PyValue) (entries : PyDict) :
    PyDict :=
  if keep (entries.get? key) then entries else OrderedDict.setEntry key value entries

def injectMetadata (env : EmitEnv) (payload : PyDict) (correlationId : Option String) : PyDict :=
  let held := fun value : Option PyValue => !(value.getD .none).isNone
  let result := setUnless held "correlation_id"
    (.str (PyText.textOrElse correlationId env.freshCorrelationId)) payload
  let result := setUnless Option.isSome "causation_id" .none result
  let result := setUnless Option.isSome "emitted_at" (.str env.emittedAt) result
  let truthy := fun value : Option PyValue => (value.getD .none).truthy
  let result :=
    if env.sessionIdVariable = "" then result
    else setUnless truthy "session_id" (.str env.sessionIdVariable) result
  let result :=
    match (PyDict.get result "session_id").asStr? with
    | none => result
    | some sessionId =>
      if sessionId = "" then result
      else setUnless Option.isSome "entity_id"
        (.str (if env.isUuid sessionId then sessionId else env.hashedUuid sessionId)) result
  OrderedDict.setEntry "schema_version" (.str "1.0.0") result

/-! ## The fan-out -/

/-- What the loop body does before it enqueues. -/
inductive Prepared where
  | raises (error : EmitError)
  | skipped
  | ready (event : ModelQueuedEvent)

def prepareEvent (env : EmitEnv) (eventType : NonEmptyString) (payload : PyDict)
    (rule : FanOutRule) (io : RuleIO) : Prepared :=
  match rule.applyTransform payload with
  | none => .raises .transformRaised
  | some transformed =>
    match env.jsonDumps transformed with
    | none => .skipped
    | some transformedJson =>
      if env.maxPayloadBytes < (encodedSize transformedJson : ℕ) then .skipped
      else
        match NonEmptyString.validate? rule.topic with
        | none => .raises .emptyTopic
        | some topic =>
          .ready
            { eventId := io.eventId
              eventType := eventType
              topic := topic
              payload := .dict transformed
              partitionKey :=
                (env.registry.getPartitionKey env.str eventType.value transformed).getD none
              queuedAt := io.queuedAt
              tier := rule.tier }

inductive FanOutEnd where
  | done (lastEventId : Option NonEmptyString)
  | refused (reason : String)
  | raised (error : EmitError)

def degradedReason (event : ModelQueuedEvent) (message : String) : String :=
  "degraded: durable outbox full, cannot accept duty-critical event " ++ event.eventType.value ++
    " -> " ++ event.topic.value ++ ": " ++ message

def fanOutLoop (env : EmitEnv) (eventType : NonEmptyString) (payload : PyDict) :
    BoundedEventQueue → Option NonEmptyString → List (FanOutRule × RuleIO) →
      BoundedEventQueue × FanOutEnd
  | queue, lastEventId, [] => (queue, .done lastEventId)
  | queue, lastEventId, (rule, io) :: rest =>
    match prepareEvent env eventType payload rule io with
    | .raises error => (queue, .raised error)
    | .skipped => fanOutLoop env eventType payload queue lastEventId rest
    | .ready event =>
      let enqueued := queue.enqueue env.codec io.disk event
      match enqueued.2 with
      -- the events of the earlier rules stay queued
      | .error (.full message) => (enqueued.1, .refused (degradedReason event message))
      | .error error => (enqueued.1, .raised (.appendRaised error))
      | .ok true => fanOutLoop env eventType payload enqueued.1 (some event.eventId) rest
      | .ok false => fanOutLoop env eventType payload enqueued.1 lastEventId rest

def checkRequest (env : EmitEnv) (request : ModelDaemonEmitRequest) :
    Except String (EventRegistration × PyDict) :=
  let eventType := request.eventType.value
  let rawPayload := if request.payload.isNone then .dict [] else request.payload
  match rawPayload.asDict? with
  | none => .error "'payload' must be a JSON object"
  | some payload =>
    match env.registry.getRegistration eventType with
    | none => .error ("Unknown event type: " ++ eventType)
    | some registration =>
      match env.registry.validatePayload eventType payload with
      | .error reason => .error reason
      | .ok missing =>
        if missing.isEmpty then
          .ok (registration, injectMetadata env payload (payload.get "correlation_id").asStr?)
        else
          .error ("Missing required fields for " ++ eventType ++ ": " ++
            PyText.reprList env.unicode missing)

def ruleTargets (registration : EventRegistration) (io : ℕ → RuleIO) : List (FanOutRule × RuleIO) :=
  registration.fanOut.zipIdx.map fun indexed => (indexed.1, io indexed.2)

def handleEmit (env : EmitEnv) (io : ℕ → RuleIO) (queue : BoundedEventQueue)
    (request : ModelDaemonEmitRequest) : BoundedEventQueue × Except EmitError EmitReply :=
  match checkRequest env request with
  | .error reason => (queue, .ok (.error reason))
  | .ok (registration, payload) =>
    let looped := fanOutLoop env request.eventType payload queue none (ruleTargets registration io)
    match looped.2 with
    | .raised error => (looped.1, .error error)
    | .refused reason => (looped.1, .ok (.error reason))
    | .done none =>
      (looped.1, .ok (.error ("Failed to queue any events for " ++ request.eventType.value)))
    | .done (some eventId) => (looped.1, .ok (.queued eventId))

end OmniMarket.EmitDaemon
