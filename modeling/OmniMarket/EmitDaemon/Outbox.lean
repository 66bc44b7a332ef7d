import Mathlib.Data.List.Sort
import OmniMarket.Lib.OrderedDict
import OmniMarket.Lib.PyText
import OmniMarket.Lib.PyValue

/-!
# The durable outbox

`DurableOutbox` keeps one file for each pending duty-critical event. The pending records and
their byte count live in memory, the files in a directory that survives a crash. What each
file operation does is a parameter of the operation that makes it, `DiskIO`. Logging is left
out, and so is the lock: no operation awaits while it holds it.
-/

namespace OmniMarket.EmitDaemon

inductive EnumDurabilityTier where
  | dutyCritical
  | telemetry
deriving DecidableEq

/-- Times are microseconds since the epoch. -/
@[ext] structure ModelQueuedEvent where
  eventId : NonEmptyString
  eventType : NonEmptyString
  topic : NonEmptyString
  payload : PyValue
  partitionKey : Option String := none
  queuedAt : ℕ
  tier : EnumDurabilityTier := .telemetry
deriving DecidableEq

/-- `model_dump_json` and `model_validate_json`; `none` when they raise. -/
structure EventCodec where
  dumpJson : ModelQueuedEvent → Option String
  validateJson : String → Option ModelQueuedEvent

/-! ## Files -/

/-- The name `{timestamp}_{event_id}.json` of an event file. -/
structure FileName where
  timestamp : ℕ
  eventId : String
deriving DecidableEq

/-- The order of the names as strings: the timestamp has a fixed number of digits. -/
def FileName.le (first second : FileName) : Prop :=
  first.timestamp < second.timestamp ∨
    (first.timestamp = second.timestamp ∧ first.eventId ++ ".json" ≤ second.eventId ++ ".json")

instance fileNameLeDecidable : DecidableRel FileName.le := by
  intro first second
  unfold FileName.le
  infer_instance

abbrev Directory := OrderedDict FileName String

/-- `sorted(directory.glob("*.json"))`. -/
def sortedFiles (directory : Directory) : List FileName :=
  directory.keys.insertionSort FileName.le

/-- `len(text.encode("utf-8"))`. -/
def encodedSize (text : String) : ℕ := text.utf8ByteSize

/-- What a write does: it returns, or it raises `OSError` and leaves a first part of the text in
the file, or no file at all. -/
inductive WriteResult where
  | written
  | raised (left : Option ℕ)
deriving DecidableEq

/-- The clock and what the file system does during one operation. -/
structure DiskIO where
  now : ℕ
  write : WriteResult := .written
  mkdirRaises : Bool := false
  statRaises : FileName → Bool := fun _ => false
  readRaises : FileName → Bool := fun _ => false
  unlinkRaises : FileName → Bool := fun _ => false
  renameRaises : FileName → Bool := fun _ => false

/-- `path.write_text(text)`. -/
def writeText (directory : Directory) (path : FileName) (text : String) :
    WriteResult → Directory
  | .written => directory.set path text
  | .raised none => directory
  | .raised (some left) => directory.set path (String.ofList (text.toList.take left))

/-- `path.unlink()`, with `none` when it raises. -/
def unlink (io : DiskIO) (directory : Directory) (path : FileName) : Option Directory :=
  if io.unlinkRaises path then none else some (directory.erase path)

/-- `path.stat().st_size`, with `none` when it raises. -/
def stat (io : DiskIO) (directory : Directory) (path : FileName) : Option ℕ :=
  if io.statRaises path then none else (directory.get? path).map encodedSize

/-- What `read_text` makes of the line ends. -/
def universalNewlines : List Char → List Char
  | '\r' :: '\n' :: rest => '\n' :: universalNewlines rest
  | '\r' :: rest => '\n' :: universalNewlines rest
  | c :: rest => c :: universalNewlines rest
  | [] => []

/-- `len(content.encode("utf-8"))` of a text that was read. -/
def readSize (text : String) : ℕ := encodedSize (String.ofList (universalNewlines text.toList))

/-- `path.read_text()`, with `none` when it raises. The kinds of line ends are the same to JSON,
so the text is left as it is and only its size tells them apart. -/
def readText (io : DiskIO) (directory : Directory) (path : FileName) : Option String :=
  if io.readRaises path then none else directory.get? path

/-! ## The outbox -/

structure OutboxRecord where
  event : ModelQueuedEvent
  path : FileName
  sizeBytes : ℕ
deriving DecidableEq

/-- The checked constructor arguments. -/
structure OutboxLimits where
  maxMessages : ℕ
  maxBytes : ℕ
  messagesPositive : 1 ≤ maxMessages
  bytesPositive : 1 ≤ maxBytes

/-! The bounds of a small outbox, five events of fifty bytes. -/

theorem smallOutbox_messages : 1 ≤ 5 := by decide

theorem smallOutbox_bytes : 1 ≤ 50 := by decide

structure DurableOutbox where
  limits : OutboxLimits
  pending : List OutboxRecord
  pendingBytes : ℕ
  directory : Directory

inductive AppendError where
  | full (message : String)
  | notSerializable
  | writeRaised

namespace DurableOutbox

/-- The message of a full outbox, or `none` when there is room for the event. -/
def fullMessage (outbox : DurableOutbox) (event : ModelQueuedEvent) (eventBytes : ℕ) :
    Option String :=
  if outbox.limits.maxBytes < eventBytes then
    some ("Event " ++ event.eventId.value ++ " (" ++ toString eventBytes ++
      " bytes) exceeds outbox capacity (" ++ toString outbox.limits.maxBytes ++
      " bytes); cannot persist duty-critical event")
  else if outbox.limits.maxMessages ≤ outbox.pending.length then
    some ("Outbox full: " ++ toString outbox.pending.length ++ "/" ++
      toString outbox.limits.maxMessages ++
      " pending duty-critical events; refusing to drop event " ++ event.eventId.value)
  else if outbox.limits.maxBytes < outbox.pendingBytes + eventBytes then
    some ("Outbox byte cap reached: " ++ toString outbox.pendingBytes ++ "+" ++
      toString eventBytes ++ " > " ++ toString outbox.limits.maxBytes ++
      "; refusing to drop event " ++ event.eventId.value)
  else none

def append (codec : EventCodec) (io : DiskIO) (outbox : DurableOutbox)
    (event : ModelQueuedEvent) : DurableOutbox × Except AppendError OutboxRecord :=
  match codec.dumpJson event with
  | none => (outbox, .error .notSerializable)
  | some eventJson =>
    let eventBytes := encodedSize eventJson
    match outbox.fullMessage event eventBytes with
    | some message => (outbox, .error (.full message))
    | none =>
      let filepath : FileName := ⟨io.now, event.eventId.value⟩
      let directory := writeText outbox.directory filepath eventJson io.write
      match io.write with
      | .raised _ => ({ outbox with directory := directory }, .error .writeRaised)
      | .written =>
        let record : OutboxRecord := ⟨event, filepath, eventBytes⟩
        ({ outbox with
            pending := outbox.pending ++ [record]
            pendingBytes := outbox.pendingBytes + eventBytes
            directory := directory }, .ok record)

def peek (outbox : DurableOutbox) : Option OutboxRecord := outbox.pending.head?

/-- A file that cannot be removed stays; the record is gone all the same. -/
def ack (io : DiskIO) (outbox : DurableOutbox) (record : OutboxRecord) : DurableOutbox :=
  if record ∈ outbox.pending then
    { outbox with
      pending := outbox.pending.erase record
      pendingBytes := outbox.pendingBytes - record.sizeBytes
      directory := (unlink io outbox.directory record.path).getD outbox.directory }
  else outbox

/-- `_quarantine`: the file leaves the directory unless the rename raises. -/
def quarantine (io : DiskIO) (directory : Directory) (path : FileName) : Directory :=
  if io.mkdirRaises || io.renameRaises path then directory else directory.erase path

def loadRecord (codec : EventCodec) (io : DiskIO) (directory : Directory) (path : FileName) :
    Option OutboxRecord := do
  let content ← readText io directory path
  let event ← codec.validateJson content
  return ⟨event, path, readSize content⟩

/-- The body of the loop over the files. -/
def loadFile (codec : EventCodec) (io : DiskIO) (outbox : DurableOutbox) (path : FileName) :
    DurableOutbox :=
  match loadRecord codec io outbox.directory path with
  | none => { outbox with directory := quarantine io outbox.directory path }
  | some record =>
    { outbox with
      pending := outbox.pending ++ [record]
      pendingBytes := outbox.pendingBytes + record.sizeBytes }

def loadPending (codec : EventCodec) (io : DiskIO) (outbox : DurableOutbox) : DurableOutbox :=
  (sortedFiles outbox.directory).foldl (loadFile codec io)
    { outbox with pending := [], pendingBytes := 0 }

/-! ## Append -/

structure HasRoom (outbox : DurableOutbox) (sizes : List ℕ) : Prop where
  messages : outbox.pending.length + sizes.length ≤ outbox.limits.maxMessages
  bytes : outbox.pendingBytes + sizes.sum ≤ outbox.limits.maxBytes

theorem fullMessage_eq_none {outbox : DurableOutbox} {event : ModelQueuedEvent} {eventBytes : ℕ} :
    outbox.fullMessage event eventBytes = none ↔ outbox.HasRoom [eventBytes] := by
  unfold fullMessage
  constructor
  · intro room
    split at room
    · cases room
    · split at room
      · cases room
      · next messages =>
        split at room
        · cases room
        · next bytes =>
          refine ⟨Nat.lt_of_not_le messages, ?_⟩
          rw [List.sum_singleton]
          exact Nat.le_of_not_lt bytes
  · rintro ⟨messages, bytes⟩
    rw [List.sum_singleton] at bytes
    have fits : eventBytes ≤ outbox.limits.maxBytes := (Nat.le_add_left ..).trans bytes
    rw [if_neg (Nat.not_lt.2 fits), if_neg (Nat.not_le.2 messages), if_neg (Nat.not_lt.2 bytes)]

section

variable {codec : EventCodec} {io : DiskIO} {outbox : DurableOutbox} {event : ModelQueuedEvent}
  {eventJson : String}

def recordOf (io : DiskIO) (event : ModelQueuedEvent) (eventJson : String) : OutboxRecord :=
  ⟨event, ⟨io.now, event.eventId.value⟩, encodedSize eventJson⟩

theorem append_full (io : DiskIO) (dumped : codec.dumpJson event = some eventJson)
    (full : ¬ outbox.HasRoom [encodedSize eventJson]) :
    ∃ message, outbox.append codec io event = (outbox, .error (.full message)) := by
  unfold append
  rw [dumped]
  dsimp only
  cases refused : outbox.fullMessage event (encodedSize eventJson) with
  | none => exact absurd (fullMessage_eq_none.1 refused) full
  | some message => exact ⟨message, rfl⟩

theorem append_written (dumped : codec.dumpJson event = some eventJson)
    (room : outbox.HasRoom [encodedSize eventJson]) (written : io.write = .written) :
    outbox.append codec io event =
      ({ outbox with
          pending := outbox.pending ++ [recordOf io event eventJson]
          pendingBytes := outbox.pendingBytes + encodedSize eventJson
          directory := outbox.directory.set ⟨io.now, event.eventId.value⟩ eventJson },
        .ok (recordOf io event eventJson)) := by
  unfold append
  rw [dumped]
  dsimp only
  rw [fullMessage_eq_none.2 room]
  dsimp only
  rw [written]
  rfl

theorem append_ok {record : OutboxRecord} (returned : (outbox.append codec io event).2 = .ok record) :
    ∃ eventJson, codec.dumpJson event = some eventJson ∧
      outbox.HasRoom [encodedSize eventJson] ∧ io.write = .written := by
  unfold append at returned
  split at returned
  · cases returned
  · next eventJson dumped =>
    dsimp only at returned
    split at returned
    · cases returned
    · next room =>
      split at returned
      · cases returned
      · next written => exact ⟨eventJson, dumped, fullMessage_eq_none.1 room, written⟩

theorem append_notSerializable (undumped : codec.dumpJson event = none) :
    outbox.append codec io event = (outbox, .error .notSerializable) := by
  unfold append
  rw [undumped]

theorem append_writeRaised {left : Option ℕ} (dumped : codec.dumpJson event = some eventJson)
    (room : outbox.HasRoom [encodedSize eventJson]) (raised : io.write = .raised left) :
    outbox.append codec io event =
      ({ outbox with
          directory := writeText outbox.directory ⟨io.now, event.eventId.value⟩ eventJson
            (.raised left) },
        .error .writeRaised) := by
  unfold append
  rw [dumped]
  dsimp only
  rw [fullMessage_eq_none.2 room]
  dsimp only
  rw [raised]

theorem append_error {error : AppendError}
    (failed : (outbox.append codec io event).2 = .error error) :
    ∃ directory, (outbox.append codec io event).1 = { outbox with directory := directory } ∧
      ∀ path, path ≠ ⟨io.now, event.eventId.value⟩ →
        directory.get? path = outbox.directory.get? path := by
  cases dumped : codec.dumpJson event with
  | none =>
    rw [append_notSerializable dumped]
    exact ⟨outbox.directory, rfl, fun _ _ => rfl⟩
  | some eventJson =>
    by_cases room : outbox.HasRoom [encodedSize eventJson]
    · cases write : io.write with
      | written =>
        rw [append_written dumped room write] at failed
        cases failed
      | raised left =>
        rw [append_writeRaised dumped room write]
        refine ⟨_, rfl, ?_⟩
        intro path other
        cases left with
        | none => rfl
        | some left => exact OrderedDict.get?_set_other other
    · obtain ⟨message, refused⟩ := append_full io dumped room
      rw [refused]
      exact ⟨outbox.directory, rfl, fun _ _ => rfl⟩

end

end DurableOutbox

end OmniMarket.EmitDaemon
