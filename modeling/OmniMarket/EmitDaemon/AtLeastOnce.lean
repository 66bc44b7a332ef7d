import OmniMarket.EmitDaemon.Durability

/-!
# At least once

What one process life does with the pending records, and what follows for every run.
-/

namespace OmniMarket.EmitDaemon

section

variable {codec : EventCodec} {io : DiskIO} {system : System}

/-! ## One process life -/

variable {next : System} {acks : ℕ}

theorem Moves.trans {first second : ℕ} {middle : System} {newer latest : List OutboxRecord}
    (before : Moves system middle first newer) (after : Moves middle next second latest) :
    Moves system next (first + second) (newer ++ latest) := by
  have pending : (system.outbox.pending ++ newer).drop first ++ latest =
      (system.outbox.pending ++ (newer ++ latest)).drop first := by
    rw [← List.append_assoc, List.drop_append_of_le_length before.acked]
  refine ⟨?_, ?_, ?_, after.limits.trans before.limits, ?_⟩
  · rw [after.pending, before.pending, pending, List.drop_drop]
  · have acked := after.acked
    rw [before.pending, pending, List.length_drop] at acked
    have early := before.acked
    rw [List.length_append] at early
    simp only [List.length_append] at acked ⊢
    omega
  · rw [after.appended, before.appended, List.map_append, List.append_assoc]
  · have bytes := after.bytes
    rw [before.limits] at bytes
    exact bytes.trans (max_le (Nat.le_max_left ..) before.bytes)

theorem continues_moves (lawful : LawfulCodec codec) (sound : Sound codec system)
    (continues : Continues codec system acks next) :
    Sound codec next ∧ ∃ newer, Moves system next acks newer := by
  induction continues with
  | here =>
    exact ⟨sound, [], (sound.frame rfl rfl rfl (List.Subset.refl _) (List.Subset.refl _) rfl
      sound.phase).2⟩
  | step _ admissible alive ih =>
    obtain ⟨middle, newer, before⟩ := ih
    obtain ⟨after, moves⟩ := middle.step lawful admissible
    obtain ⟨latest, later⟩ := moves alive
    exact ⟨after, newer ++ latest, before.trans later⟩

theorem Continues.trans {more : ℕ} {last : System} (before : Continues codec system acks next)
    (after : Continues codec next more last) : Continues codec system (acks + more) last := by
  induction after with
  | here => exact before
  | step _ admissible alive ih =>
    rw [← Nat.add_assoc]
    exact ih.step admissible alive

/-! ## A served record -/

structure Daemon.Serves (daemon : Daemon) (record : OutboxRecord) : Prop where
  inFlight : daemon.queue.inFlightOutbox.get? record.event.eventId.value = some record
  phase : daemon.phase = .idle ∨ daemon.phase = .publishing record.event ∨
    daemon.phase = .published record.event

variable {record : OutboxRecord}

theorem Moves.head {newer : List OutboxRecord} (moves : Moves system next 0 newer)
    (oldest : system.outbox.pending.head? = some record) :
    next.outbox.pending.head? = some record := by
  rw [moves.pending, List.drop_zero, List.head?_append, oldest]
  rfl

theorem enqueue_frame (codec : EventCodec) (io : DiskIO) (system : System)
    (event : ModelQueuedEvent) :
    (system.enqueue codec io event).daemon.queue.inFlightOutbox =
        system.daemon.queue.inFlightOutbox ∧
      (system.enqueue codec io event).daemon.phase = system.daemon.phase := by
  refine ⟨?_, rfl⟩
  show (system.daemon.queue.enqueue codec io event).1.inFlightOutbox = _
  cases tier : event.tier with
  | dutyCritical =>
    rw [BoundedEventQueue.enqueue_duty tier]
  | telemetry =>
    obtain ⟨accepted, returned, outbox, inFlight, -⟩ :=
      system.daemon.queue.enqueue_telemetry codec io tier
    exact inFlight

variable {daemon : Daemon}

theorem serves_oldest (codec : EventCodec) (io : DiskIO) (recovered : Bool) {circuit : Circuit}
    (oldest : daemon.queue.outbox.pending.head? = some record) (idle : daemon.phase = .idle)
    (probed : probeCircuit recovered daemon.circuit = some circuit) :
    (daemon.drawEvent codec io recovered).Serves record ∧
      (daemon.drawEvent codec io recovered).phase = .publishing record.event := by
  have drawn : daemon.drawEvent codec io recovered =
      { daemon with
        queue := { daemon.queue with
          inFlightOutbox := daemon.queue.inFlightOutbox.set record.event.eventId.value record }
        circuit := circuit
        phase := .publishing record.event } := by
    unfold Daemon.drawEvent BoundedEventQueue.dequeue DurableOutbox.peek
    rw [idle, probed, oldest]
  rw [drawn]
  exact ⟨⟨OrderedDict.get?_set_self .., .inr (.inl rfl)⟩, rfl⟩

variable {event : ModelQueuedEvent}

theorem publishSucceeds_publishing (phase : daemon.phase = .publishing event) :
    daemon.publishSucceeds.queue = daemon.queue ∧
      daemon.publishSucceeds.phase = .published event := by
  unfold Daemon.publishSucceeds
  rw [phase]
  exact ⟨rfl, rfl⟩

theorem publishSucceeds_other (phase : ∀ event, daemon.phase ≠ .publishing event) :
    daemon.publishSucceeds = daemon := by
  unfold Daemon.publishSucceeds
  split
  · next event now => exact absurd now (phase event)
  · rfl

theorem ackPublished_cases (io : DiskIO) (daemon : Daemon) :
    daemon.ackPublished io = daemon ∨ ∃ event, daemon.phase = .published event := by
  unfold Daemon.ackPublished
  cases phase : daemon.phase with
  | published event => exact .inr ⟨event, rfl⟩
  | idle => exact .inl rfl
  | publishing event => exact .inl rfl

theorem serves_step (oldest : system.outbox.pending.head? = some record)
    (serves : system.daemon.Serves record) {action : Action} (alive : isCrash action = false)
    (unacked : acksOf system action = 0) : (system.step codec action).daemon.Serves record := by
  obtain ⟨inFlight, phase⟩ := serves
  cases action with
  | enqueue event io =>
    obtain ⟨same, now⟩ := enqueue_frame codec io system event
    exact ⟨same ▸ inFlight, now ▸ phase⟩
  | drawEvent io recovered =>
    show (system.daemon.drawEvent codec io recovered).Serves record
    rcases drawEvent_cases codec io recovered system.daemon with same | ⟨circuit, idle, probed, -⟩
    · rw [same]
      exact ⟨inFlight, phase⟩
    · -- the oldest record is drawn again
      exact (serves_oldest codec io recovered oldest idle probed).1
  | publishSucceeds =>
    show system.daemon.publishSucceeds.Serves record
    rcases phase with idle | publishing | published
    · rw [publishSucceeds_other fun event now => by rw [idle] at now; cases now]
      exact ⟨inFlight, .inl idle⟩
    · obtain ⟨queue, after⟩ := publishSucceeds_publishing publishing
      exact ⟨queue ▸ inFlight, .inr (.inr after)⟩
    · rw [publishSucceeds_other fun event now => by rw [published] at now; cases now]
      exact ⟨inFlight, .inr (.inr published)⟩
  | publishFails io =>
    show (system.daemon.publishFails codec io).Serves record
    obtain ⟨-, same, now⟩ := publishFails_frame codec io system.daemon
    refine ⟨same ▸ inFlight, ?_⟩
    rcases now with unchanged | idle
    · exact unchanged ▸ phase
    · exact .inl idle
  | ackPublished io =>
    show (system.daemon.ackPublished io).Serves record
    rcases ackPublished_cases io system.daemon with same | ⟨event, published⟩
    · rw [same]
      exact ⟨inFlight, phase⟩
    · -- the event is the record's, so the acknowledgement counts
      rw [published] at phase
      rcases phase with idle | publishing | own
      · cases idle
      · cases publishing
      · cases own
        rw [acksOf_published io published, inFlight] at unacked
        cases unacked
  | crash io => cases alive

theorem continues_serves (lawful : LawfulCodec codec) (sound : Sound codec system)
    (oldest : system.outbox.pending.head? = some record) (serves : system.daemon.Serves record)
    (continues : Continues codec system acks next) (unacked : acks = 0) :
    next.daemon.Serves record := by
  induction continues with
  | here => exact serves
  | step before admissible alive ih =>
    obtain ⟨none_, unacked⟩ := Nat.add_eq_zero_iff.1 unacked
    obtain ⟨-, newer, moves⟩ := continues_moves lawful sound before
    rw [none_] at moves
    exact serves_step (moves.head oldest) (ih none_) alive unacked

/-! ## Progress -/

theorem Continues.act (before : Continues codec system acks next) (action : Action)
    (admissible : Admissible next action) (alive : isCrash action = false) {more : ℕ}
    (counted : acksOf next action = more) :
    Continues codec system (acks + more) (next.step codec action) := by
  rw [← counted]
  exact before.step admissible alive

theorem continues_idle (codec : EventCodec) (system : System) :
    (∃ next, Continues codec system 0 next ∧ next.daemon.phase = .idle) ∨
      ∃ next, Continues codec system 1 next := by
  have io : DiskIO := { now := 0 }
  cases phase : system.daemon.phase with
  | idle => exact .inl ⟨system, .here, phase⟩
  | publishing event =>
    have failed : Continues codec system 0 (system.step codec (.publishFails io)) :=
      Continues.here.act (.publishFails io) True.intro rfl rfl
    refine .inl ⟨_, failed, ?_⟩
    show (system.daemon.publishFails codec io).phase = .idle
    unfold Daemon.publishFails
    rw [phase]
    dsimp only
    split <;> rfl
  | published event =>
    have counted := acksOf_published io phase
    cases flying : system.daemon.queue.inFlightOutbox.get? event.eventId.value with
    | some record =>
      rw [flying] at counted
      exact .inr ⟨_, Continues.here.act (.ackPublished io) True.intro rfl counted⟩
    | none =>
      rw [flying] at counted
      refine .inl ⟨_, Continues.here.act (.ackPublished io) True.intro rfl counted, ?_⟩
      show (system.daemon.ackPublished io).phase = .idle
      unfold Daemon.ackPublished
      rw [phase]

theorem continues_served (oldest : system.outbox.pending.head? = some record)
    (idle : system.daemon.phase = .idle) : ∃ next, Continues codec system 1 next := by
  have io : DiskIO := { now := 0 }
  obtain ⟨circuit, probed⟩ : ∃ circuit, probeCircuit true system.daemon.circuit = some circuit := by
    unfold probeCircuit
    split
    · exact ⟨_, rfl⟩
    · exact ⟨_, rfl⟩
  obtain ⟨serves, publishing⟩ := serves_oldest codec io true oldest idle probed
  have drawn : Continues codec system 0 (system.step codec (.drawEvent io true)) :=
    Continues.here.act (.drawEvent io true) True.intro rfl rfl
  have confirmed : Continues codec system 0
      ((system.step codec (.drawEvent io true)).step codec .publishSucceeds) :=
    drawn.act .publishSucceeds True.intro rfl rfl
  obtain ⟨queue, published⟩ := publishSucceeds_publishing publishing
  have counted : acksOf ((system.step codec (.drawEvent io true)).step codec .publishSucceeds)
      (.ackPublished io) = 1 := by
    rw [acksOf_published io published]
    show (if ((system.daemon.drawEvent codec io true).publishSucceeds.queue.inFlightOutbox.get?
      record.event.eventId.value).isSome then 1 else 0) = 1
    rw [queue, serves.inFlight]
    rfl
  exact ⟨_, confirmed.act (.ackPublished io) True.intro rfl counted⟩

theorem continues_one (lawful : LawfulCodec codec) (sound : Sound codec system)
    (oldest : system.outbox.pending.head? = some record) :
    ∃ next, Continues codec system 1 next := by
  rcases continues_idle codec system with ⟨next, quiet, idle⟩ | acked
  · obtain ⟨-, newer, moves⟩ := continues_moves lawful sound quiet
    obtain ⟨last, served⟩ := continues_served (moves.head oldest) idle
    exact ⟨last, Nat.zero_add 1 ▸ quiet.trans served⟩
  · exact acked

theorem continues_exists (lawful : LawfulCodec codec) (sound : Sound codec system) :
    ∀ acks ≤ system.outbox.pending.length, ∃ next, Continues codec system acks next := by
  intro acks
  induction acks with
  | zero => exact fun _ => ⟨system, .here⟩
  | succ acks ih =>
    intro enough
    obtain ⟨next, before⟩ := ih (Nat.le_of_succ_le enough)
    obtain ⟨after, newer, moves⟩ := continues_moves lawful sound before
    have nonempty : next.outbox.pending ≠ [] := by
      rw [moves.pending]
      intro empty
      have short := List.drop_eq_nil_iff.1 empty
      rw [List.length_append] at short
      omega
    obtain ⟨record, rest, pending⟩ := List.exists_cons_of_ne_nil nonempty
    have oldest : next.outbox.pending.head? = some record := by
      rw [pending]
      rfl
    obtain ⟨last, one⟩ := continues_one lawful after oldest
    exact ⟨last, before.trans one⟩

/-! ## Every run -/

def OnDisk (codec : EventCodec) (directory : Directory) (event : ModelQueuedEvent) : Prop :=
  ∃ path text loaded, directory.get? path = some text ∧
    codec.validateJson text = some loaded ∧ SameEvent event loaded

/-- After so many acknowledgements the loop is served the event, and they can happen. -/
def ServedAfter (codec : EventCodec) (system : System) (acks : ℕ) (event : ModelQueuedEvent) :
    Prop :=
  (∃ next, Continues codec system acks next) ∧
    ∀ next, Continues codec system acks next → ∀ io, ∃ served,
      (next.daemon.queue.dequeue codec io).2 = some served ∧ SameEvent event served

structure AtLeastOnce (codec : EventCodec) (system : System) : Prop where
  onDisk : ∀ event ∈ system.appended, event.eventId.value ∉ system.confirmed →
    OnDisk codec system.outbox.directory event
  /-- It is served again once the older records are acknowledged. -/
  served : ∀ event ∈ system.appended, event.eventId.value ∉ system.confirmed →
    ∃ older record newer, system.outbox.pending = older ++ record :: newer ∧
      SameEvent event record.event ∧ ServedAfter codec system older.length event
  /-- The record that is served stays the one that the next acknowledgement removes, and
  nothing else is removed. -/
  ackExact : ∀ record rest, system.outbox.pending = record :: rest →
    ∀ io recovered circuit, system.daemon.phase = .idle →
      probeCircuit recovered system.daemon.circuit = some circuit →
      ∀ next, Continues codec (system.step codec (.drawEvent io recovered)) 0 next →
        next.daemon.Serves record ∧
          ∀ ackIO, next.daemon.phase = .published record.event →
            ∃ newer, RemovesOldest next.outbox (next.step codec (.ackPublished ackIO)).outbox
              record.event record (rest ++ newer)
  /-- An acknowledgement of an event without a record changes no record. -/
  ackOther : ∀ event io, system.daemon.phase = .published event →
    system.daemon.queue.inFlightOutbox.get? event.eventId.value = none →
      (system.step codec (.ackPublished io)).outbox = system.outbox
  bytes : system.outbox.pendingBytes = (system.outbox.pending.map OutboxRecord.sizeBytes).sum
  /-- Only a restart can leave more bytes than allowed. -/
  bounded : ∀ acks next, Continues codec system acks next →
    next.outbox.pendingBytes ≤ max system.outbox.limits.maxBytes system.outbox.pendingBytes
  /-- In one process life the records leave at the front and new ones come at the end. -/
  inOrder : ∀ acks next, Continues codec system acks next →
    ∃ newer, next.outbox.pending = (system.outbox.pending ++ newer).drop acks ∧
      next.appended = system.appended ++ newer.map OutboxRecord.event
  byTime : system.outbox.pending.Pairwise fun first second =>
    first.path.timestamp ≤ second.path.timestamp
  servesFront : ∀ record rest, system.outbox.pending = record :: rest →
    ∀ io, (system.daemon.queue.dequeue codec io).2 = some record.event

theorem dequeue_front (codec : EventCodec) (io : DiskIO) {queue : BoundedEventQueue}
    (oldest : queue.outbox.pending.head? = some record) :
    (queue.dequeue codec io).2 = some record.event := by
  unfold BoundedEventQueue.dequeue DurableOutbox.peek
  rw [oldest]

theorem Sound.onDisk (sound : Sound codec system) (pending : record ∈ system.outbox.pending)
    (same : SameEvent event record.event) : OnDisk codec system.outbox.directory event := by
  obtain ⟨text, loaded, found, parsed, agrees⟩ := sound.intact.stored record pending
  exact ⟨record.path, text, loaded, found, parsed, same.trans agrees⟩

theorem Sound.servedAfter (lawful : LawfulCodec codec) (sound : Sound codec system)
    {older later : List OutboxRecord} (pending : system.outbox.pending = older ++ record :: later)
    (same : SameEvent event record.event) : ServedAfter codec system older.length event := by
  refine ⟨continues_exists lawful sound older.length ?_, ?_⟩
  · rw [pending, List.length_append]
    exact Nat.le_add_right ..
  · intro next continues io
    obtain ⟨-, newer, moves⟩ := continues_moves lawful sound continues
    refine ⟨record.event, dequeue_front codec io ?_, same⟩
    show next.outbox.pending.head? = some record
    rw [moves.pending, pending, List.append_assoc, List.drop_left]
    rfl

theorem Sound.ackExact (lawful : LawfulCodec codec) (sound : Sound codec system)
    {rest : List OutboxRecord} (pending : system.outbox.pending = record :: rest) (io : DiskIO)
    {recovered : Bool} {circuit : Circuit} (idle : system.daemon.phase = .idle)
    (probed : probeCircuit recovered system.daemon.circuit = some circuit)
    (continues : Continues codec (system.step codec (.drawEvent io recovered)) 0 next) :
    next.daemon.Serves record ∧
      ∀ ackIO, next.daemon.phase = .published record.event →
        ∃ newer, RemovesOldest next.outbox (next.step codec (.ackPublished ackIO)).outbox
          record.event record (rest ++ newer) := by
  have oldest : system.outbox.pending.head? = some record := by
    rw [pending]
    rfl
  obtain ⟨drawn, still⟩ := sound.drawEvent io recovered
  have serves : next.daemon.Serves record :=
    continues_serves lawful drawn (still.head oldest)
      (serves_oldest codec io recovered oldest idle probed).1 continues rfl
  refine ⟨serves, ?_⟩
  intro ackIO published
  obtain ⟨later, newer, moves⟩ := continues_moves lawful drawn continues
  have now : next.outbox.pending = record :: (rest ++ newer) := by
    rw [moves.pending, List.drop_zero, still.pending, List.drop_zero, List.append_nil, pending]
    rfl
  rcases later.ack_cases ackIO published with ⟨missing, -⟩ | ⟨held, left, flying, removed, removes⟩
  · rw [serves.inFlight] at missing
    cases missing
  · have own := removes.oldest
    rw [now] at own
    cases own
    refine ⟨newer, ?_⟩
    have outbox : (next.step codec (.ackPublished ackIO)).outbox = next.outbox.ack ackIO record := by
      show (next.daemon.ackPublished ackIO).queue.outbox = _
      unfold Daemon.ackPublished
      rw [published]
      show (next.daemon.queue.ack ackIO record.event).outbox = _
      rw [removed]
    rw [outbox]
    exact removes

/-- In every state of every run. -/
theorem outbox_at_least_once (lawful : LawfulCodec codec) (reachable : Reachable codec system) :
    AtLeastOnce codec system := by
  have sound := reachable.sound lawful
  refine ⟨?_, ?_, ?_, ?_, sound.intact.bytes, ?_, ?_, sound.intact.ordered, ?_⟩
  · intro event listed unconfirmed
    obtain ⟨record, pending, same⟩ := sound.kept event listed unconfirmed
    exact sound.onDisk pending same
  · intro event listed unconfirmed
    obtain ⟨record, pending, same⟩ := sound.kept event listed unconfirmed
    obtain ⟨older, newer, split⟩ := List.append_of_mem pending
    exact ⟨older, record, newer, split, same, sound.servedAfter lawful split same⟩
  · intro record rest pending io recovered circuit idle probed next continues
    exact sound.ackExact lawful pending io idle probed continues
  · intro event io published missing
    show (system.daemon.ackPublished io).queue.outbox = _
    unfold Daemon.ackPublished
    rw [published]
    show (system.daemon.queue.ack io event).outbox = _
    unfold BoundedEventQueue.ack
    rw [missing]
    rfl
  · intro acks next continues
    obtain ⟨-, newer, moves⟩ := continues_moves lawful sound continues
    exact moves.bytes
  · intro acks next continues
    obtain ⟨-, newer, moves⟩ := continues_moves lawful sound continues
    exact ⟨newer, moves.pending, moves.appended⟩
  · intro record rest pending io
    refine dequeue_front codec io ?_
    show system.outbox.pending.head? = some record
    rw [pending]
    rfl

end

/-! ## One event on an empty disk -/

def taskEvent : ModelQueuedEvent where
  eventId := ⟨"e-77", by decide⟩
  eventType := ⟨"task.completed", by decide⟩
  topic := ⟨"onex.evt.omniclaude.task-completed.v1", by decide⟩
  payload := .dict []
  queuedAt := 1767225600000000
  tier := .dutyCritical

def taskText : String :=
  "\x7b\"event_id\":\"e-77\",\"event_type\":\"task.completed\"," ++
    "\"topic\":\"onex.evt.omniclaude.task-completed.v1\",\"payload\":\x7b\x7d," ++
    "\"partition_key\":null,\"queued_at\":\"2026-01-01T00:00:00Z\",\"tier\":\"duty_critical\"\x7d"

def singleCodec (own : ModelQueuedEvent) (ownText : String) : EventCodec where
  dumpJson event := if event = own then some ownText else none
  validateJson text := if text = ownText then some own else none

theorem singleCodec_lawful (own : ModelQueuedEvent) (ownText : String) :
    LawfulCodec (singleCodec own ownText) := by
  intro event text dumped
  unfold singleCodec at dumped
  dsimp only at dumped
  split at dumped
  · next same =>
    cases dumped
    exact ⟨own, if_pos rfl, same ▸ .refl own⟩
  · cases dumped

def taskCodec : EventCodec := singleCodec taskEvent taskText

def taskIO : DiskIO := { now := 1767225600000001 }

def emptySystem : System where
  daemon :=
    { settings := {}
      queue := .restart taskCodec taskIO {} ⟨77, 770, by decide, by decide⟩ .empty .empty }
  appended := []
  confirmed := []
  used := []
  clock := 0

theorem emptySystem_starts : Starts taskCodec emptySystem := by
  refine ⟨⟨_, _, _, _, _, _, fun _ => rfl, rfl, ?_⟩, rfl, rfl⟩
  intro path listed
  cases listed

theorem outbox_at_least_once_task :
    (emptySystem.step taskCodec (.enqueue taskEvent taskIO)).appended =
        [taskEvent] ∧
      AtLeastOnce taskCodec (emptySystem.step taskCodec (.enqueue taskEvent taskIO)) := by
  refine ⟨by decide +kernel, outbox_at_least_once (singleCodec_lawful _ _) ?_⟩
  exact .step (.start emptySystem_starts) ⟨List.not_mem_nil, fun _ => Nat.zero_le taskIO.now⟩

end OmniMarket.EmitDaemon
