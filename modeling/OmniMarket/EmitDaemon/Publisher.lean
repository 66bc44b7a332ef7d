import OmniMarket.EmitDaemon.Queue

/-!
# The publisher loop

`KafkaPublisherLoop._loop` draws an event, publishes it and acknowledges it, and events are
enqueued between these steps. Each step here is what the code does between two awaits. Waiting
is left out: the loop may take its next step at any time.
-/

namespace OmniMarket.EmitDaemon

/-! ## The circuit breaker -/

inductive EnumCircuitBreakerState where
  | closed
  | opened
  | halfOpen
deriving DecidableEq

structure PublisherSettings where
  maxRetryAttempts : ℤ := 3
  failureThreshold : ℤ := 5
  halfOpenMaxProbes : ℤ := 1

structure Circuit where
  state : EnumCircuitBreakerState := .closed
  consecutiveFailures : ℕ := 0
  halfOpenSuccesses : ℕ := 0

def recordSuccess (settings : PublisherSettings) (circuit : Circuit) : Circuit :=
  match circuit.state with
  | .halfOpen =>
    let successes := circuit.halfOpenSuccesses + 1
    if settings.halfOpenMaxProbes ≤ (successes : ℕ) then {}
    else { circuit with halfOpenSuccesses := successes }
  | .closed => { circuit with consecutiveFailures := 0 }
  | .opened => circuit

def recordFailure (settings : PublisherSettings) (circuit : Circuit) : Circuit :=
  let failures := circuit.consecutiveFailures + 1
  let opens := circuit.state = .halfOpen ∨
    (circuit.state = .closed ∧ settings.failureThreshold ≤ (failures : ℕ))
  { circuit with
    consecutiveFailures := failures
    state := if opens then .opened else circuit.state }

/-- The circuit with which the loop draws its next event; `none` while it waits. `recovered`
says whether the recovery timeout has elapsed. -/
def probeCircuit (recovered : Bool) (circuit : Circuit) : Option Circuit :=
  if circuit.state = .opened then
    if recovered then some { circuit with state := .halfOpen, halfOpenSuccesses := 0 } else none
  else some circuit

/-! ## The loop -/

/-- Where the loop is: about to draw an event, publishing one, or about to acknowledge it. -/
inductive LoopPhase where
  | idle
  | publishing (event : ModelQueuedEvent)
  | published (event : ModelQueuedEvent)

structure Daemon where
  settings : PublisherSettings
  queue : BoundedEventQueue
  circuit : Circuit := {}
  retryCounts : OrderedDict String ℕ := .empty
  phase : LoopPhase := .idle

namespace Daemon

/-- `await self._queue.dequeue()`. -/
def drawEvent (codec : EventCodec) (io : DiskIO) (recovered : Bool) (daemon : Daemon) : Daemon :=
  match daemon.phase, probeCircuit recovered daemon.circuit with
  | .idle, some circuit =>
    let dequeued := daemon.queue.dequeue codec io
    { daemon with
      queue := dequeued.1
      circuit := circuit
      phase := match dequeued.2 with
        | some event => .publishing event
        | none => .idle }
  | _, _ => daemon

/-- `_publish_event` returns `True`. -/
def publishSucceeds (daemon : Daemon) : Daemon :=
  match daemon.phase with
  | .publishing event =>
    { daemon with
      circuit := recordSuccess daemon.settings daemon.circuit
      retryCounts := daemon.retryCounts.erase event.eventId.value
      phase := .published event }
  | _ => daemon

def retryTelemetry (codec : EventCodec) (io : DiskIO) (daemon : Daemon)
    (event : ModelQueuedEvent) (retries : ℕ) : BoundedEventQueue × OrderedDict String ℕ :=
  let counted := daemon.retryCounts.set event.eventId.value retries
  if daemon.settings.maxRetryAttempts ≤ (retries : ℕ) then
    (daemon.queue, counted.erase event.eventId.value)
  else
    let enqueued := daemon.queue.enqueue codec io event
    match enqueued.2 with
    | .ok false => (enqueued.1, counted.erase event.eventId.value)
    | _ => (enqueued.1, counted)

/-- `_publish_event` returns `False`. A duty-critical event stays where it is. -/
def publishFails (codec : EventCodec) (io : DiskIO) (daemon : Daemon) : Daemon :=
  match daemon.phase with
  | .publishing event =>
    let circuit := recordFailure daemon.settings daemon.circuit
    let retries := (daemon.retryCounts.get? event.eventId.value).getD 0 + 1
    match event.tier with
    | .dutyCritical =>
      { daemon with
        circuit := circuit
        retryCounts := daemon.retryCounts.set event.eventId.value retries
        phase := .idle }
    | .telemetry =>
      let retried := daemon.retryTelemetry codec io event retries
      { daemon with
        queue := retried.1
        circuit := circuit
        retryCounts := retried.2
        phase := .idle }
  | _ => daemon

/-- `await self._queue.ack(event)`. -/
def ackPublished (io : DiskIO) (daemon : Daemon) : Daemon :=
  match daemon.phase with
  | .published event => { daemon with queue := daemon.queue.ack io event, phase := .idle }
  | _ => daemon

/-- A new process on the directories of this one. -/
def crash (codec : EventCodec) (io : DiskIO) (daemon : Daemon) : Daemon where
  settings := daemon.settings
  queue := .restart codec io daemon.queue.limits daemon.queue.outbox.limits
    daemon.queue.spoolDirectory daemon.queue.outbox.directory

end Daemon

/-! ## Runs -/

/-- What happens to the daemon next. -/
inductive Action where
  | enqueue (event : ModelQueuedEvent) (io : DiskIO)
  | drawEvent (io : DiskIO) (recovered : Bool)
  | publishSucceeds
  | publishFails (io : DiskIO)
  | ackPublished (io : DiskIO)
  | crash (io : DiskIO)

/-- The daemon and what an observer has noted: the events of the appends that returned, the
ids of the confirmed publishes, all event ids so far and the time of the last append. -/
structure System where
  daemon : Daemon
  appended : List ModelQueuedEvent
  confirmed : List String
  used : List String
  clock : ℕ

namespace System

def outbox (system : System) : DurableOutbox := system.daemon.queue.outbox

def enqueue (codec : EventCodec) (io : DiskIO) (system : System) (event : ModelQueuedEvent) :
    System :=
  let enqueued := system.daemon.queue.enqueue codec io event
  let duty := event.tier = .dutyCritical
  { daemon := { system.daemon with queue := enqueued.1 }
    appended :=
      match enqueued.2 with
      | .ok _ => if duty then system.appended ++ [event] else system.appended
      | .error _ => system.appended
    confirmed := system.confirmed
    used := event.eventId.value :: system.used
    clock := if duty then io.now else system.clock }

def confirmNow (system : System) : List String :=
  match system.daemon.phase with
  | .publishing event => event.eventId.value :: system.confirmed
  | _ => system.confirmed

def step (codec : EventCodec) (system : System) : Action → System
  | .enqueue event io => system.enqueue codec io event
  | .drawEvent io recovered =>
    { system with daemon := system.daemon.drawEvent codec io recovered }
  | .publishSucceeds =>
    { system with daemon := system.daemon.publishSucceeds, confirmed := system.confirmNow }
  | .publishFails io => { system with daemon := system.daemon.publishFails codec io }
  | .ackPublished io => { system with daemon := system.daemon.ackPublished io }
  | .crash io => { system with daemon := system.daemon.crash codec io }

end System

/-- Event ids are new, the clock does not run backwards between appends, and the reads of a
restart return. -/
def Admissible (system : System) : Action → Prop
  | .enqueue event io =>
    event.eventId.value ∉ system.used ∧ (event.tier = .dutyCritical → system.clock ≤ io.now)
  | .crash io => ∀ path, io.readRaises path = false
  | _ => True

structure Starts (codec : EventCodec) (system : System) : Prop where
  restarted : ∃ settings io limits outboxLimits spoolDirectory outboxDirectory,
    (∀ path, io.readRaises path = false) ∧
      system.daemon =
        { settings := settings
          queue := .restart codec io limits outboxLimits spoolDirectory outboxDirectory } ∧
      ∀ path ∈ outboxDirectory.keys, path.eventId ∈ system.used ∧ path.timestamp ≤ system.clock
  nothing : system.appended = [] ∧ system.confirmed = []

/-- The states of a run. -/
inductive Reachable (codec : EventCodec) : System → Prop where
  | start {system : System} : Starts codec system → Reachable codec system
  | step {system : System} {action : Action} :
      Reachable codec system → Admissible system action → Reachable codec (system.step codec action)

def acksRecord (system : System) : Action → Bool
  | .ackPublished _ =>
    match system.daemon.phase with
    | .published event =>
      (system.daemon.queue.inFlightOutbox.get? event.eventId.value).isSome
    | _ => false
  | _ => false

def isCrash : Action → Bool
  | .crash _ => true
  | _ => false

/-- The states that follow in the same process life, with the number of records acknowledged
on the way. -/
inductive Continues (codec : EventCodec) (system : System) : ℕ → System → Prop where
  | here : Continues codec system 0 system
  | step {acks : ℕ} {next : System} {action : Action} :
      Continues codec system acks next → Admissible next action → isCrash action = false →
      Continues codec system (acks + if acksRecord next action then 1 else 0)
        (next.step codec action)

end OmniMarket.EmitDaemon
