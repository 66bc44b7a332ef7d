import OmniMarket.EmitDaemon.OutboxInvariant
import OmniMarket.EmitDaemon.Publisher

/-!
# What a run keeps

A duty-critical event whose append returned stays in the outbox until a publish of it is
confirmed, across crashes. The record that is being published is the oldest one, so an
acknowledgement removes the record that was published.
-/

namespace OmniMarket.EmitDaemon

/-! ## The invariant -/

def InFlightOldest (queue : BoundedEventQueue) : Prop :=
  ∀ id record, queue.inFlightOutbox.get? id = some record →
    queue.outbox.pending.head? = some record ∧ record.event.eventId.value = id

def ServedBy (queue : BoundedEventQueue) (event : ModelQueuedEvent) : Prop :=
  ∀ record, queue.inFlightOutbox.get? event.eventId.value = some record → record.event = event

def PhaseSound (system : System) : Prop :=
  match system.daemon.phase with
  | .idle => True
  | .publishing event => ServedBy system.daemon.queue event
  | .published event =>
    ServedBy system.daemon.queue event ∧ event.eventId.value ∈ system.confirmed

structure Sound (codec : EventCodec) (system : System) : Prop where
  intact : system.outbox.Intact codec system.used system.clock
  kept : ∀ event ∈ system.appended, event.eventId.value ∉ system.confirmed →
    ∃ record ∈ system.outbox.pending, SameEvent event record.event
  inFlight : InFlightOldest system.daemon.queue
  phase : PhaseSound system

/-- How the pending records move: the oldest ones are acknowledged and new ones are appended at
the end. -/
structure Moves (before after : System) (acks : ℕ) (newer : List OutboxRecord) : Prop where
  pending : after.outbox.pending = (before.outbox.pending ++ newer).drop acks
  acked : acks ≤ (before.outbox.pending ++ newer).length
  appended : after.appended = before.appended ++ newer.map OutboxRecord.event
  limits : after.outbox.limits = before.outbox.limits
  bytes : after.outbox.pendingBytes ≤
    max before.outbox.limits.maxBytes before.outbox.pendingBytes

section

variable {codec : EventCodec} {io : DiskIO} {system : System}

theorem DurableOutbox.Intact.mono {outbox : DurableOutbox} {used used' : List String} {clock : ℕ}
    (intact : outbox.Intact codec used clock) (uses : used ⊆ used') :
    outbox.Intact codec used' clock :=
  { intact with known := intact.known.mono uses (Nat.le_refl _) }

theorem Sound.frame {next : System} (sound : Sound codec system)
    (outbox : next.outbox = system.outbox)
    (inFlight : next.daemon.queue.inFlightOutbox = system.daemon.queue.inFlightOutbox)
    (appended : next.appended = system.appended) (confirmed : system.confirmed ⊆ next.confirmed)
    (used : system.used ⊆ next.used) (clock : next.clock = system.clock)
    (phase : PhaseSound next) : Sound codec next ∧ Moves system next 0 [] := by
  refine ⟨⟨?_, ?_, ?_, phase⟩, ⟨?_, Nat.zero_le _, ?_, by rw [outbox], ?_⟩⟩
  · rw [outbox, clock]
    exact sound.intact.mono used
  · intro event listed unconfirmed
    rw [outbox]
    refine sound.kept event (appended ▸ listed) ?_
    intro before
    exact unconfirmed (confirmed before)
  · intro id record found
    rw [inFlight] at found
    have oldest := sound.inFlight id record found
    rw [show next.daemon.queue.outbox = system.daemon.queue.outbox from outbox]
    exact oldest
  · rw [outbox, List.append_nil, List.drop_zero]
  · rw [appended, List.map_nil, List.append_nil]
  · rw [outbox]
    exact Nat.le_max_right ..

theorem PhaseSound.congr {next : System} (sound : PhaseSound system)
    (phase : next.daemon.phase = system.daemon.phase)
    (inFlight : next.daemon.queue.inFlightOutbox = system.daemon.queue.inFlightOutbox)
    (confirmed : next.confirmed = system.confirmed) : PhaseSound next := by
  unfold PhaseSound ServedBy at sound ⊢
  rw [phase, inFlight, confirmed]
  exact sound

/-! ## Enqueue -/

variable {event : ModelQueuedEvent}

theorem enqueue_accepted {accepted : Bool}
    (returned : (system.daemon.queue.enqueue codec io event).2 = .ok accepted) :
    (system.enqueue codec io event).appended =
      if event.tier = .dutyCritical then system.appended ++ [event] else system.appended := by
  unfold System.enqueue
  dsimp only
  rw [returned]

theorem enqueue_raised {error : AppendError}
    (returned : (system.daemon.queue.enqueue codec io event).2 = .error error) :
    (system.enqueue codec io event).appended = system.appended := by
  unfold System.enqueue
  dsimp only
  rw [returned]

section

variable (duty : event.tier = .dutyCritical)

include duty

theorem enqueue_duty_queue :
    (system.enqueue codec io event).daemon.queue =
      { system.daemon.queue with outbox := (system.outbox.append codec io event).1 } := by
  show (system.daemon.queue.enqueue codec io event).1 = _
  rw [BoundedEventQueue.enqueue_duty duty]
  rfl

theorem enqueue_duty_outbox :
    (system.enqueue codec io event).outbox = (system.outbox.append codec io event).1 := by
  unfold System.outbox
  rw [enqueue_duty_queue duty]
  rfl

theorem enqueue_duty_inFlight :
    (system.enqueue codec io event).daemon.queue.inFlightOutbox =
      system.daemon.queue.inFlightOutbox := by
  rw [enqueue_duty_queue duty]

theorem enqueue_duty_returned :
    (system.daemon.queue.enqueue codec io event).2 =
      (system.outbox.append codec io event).2.map fun _ => true := by
  rw [BoundedEventQueue.enqueue_duty duty]
  rfl

end

theorem Sound.enqueueTelemetry (io : DiskIO) (sound : Sound codec system)
    (telemetry : event.tier = .telemetry) :
    Sound codec (system.enqueue codec io event) ∧
      Moves system (system.enqueue codec io event) 0 [] := by
  obtain ⟨accepted, returned, outbox, inFlight, -⟩ :=
    system.daemon.queue.enqueue_telemetry codec io telemetry
  have notDuty : ¬ event.tier = .dutyCritical := by
    rw [telemetry]
    nofun
  have appended : (system.enqueue codec io event).appended = system.appended := by
    rw [enqueue_accepted returned]
    exact if_neg notDuty
  have clock : (system.enqueue codec io event).clock = system.clock := if_neg notDuty
  refine sound.frame outbox inFlight appended (List.Subset.refl _) (List.subset_cons_self ..) clock ?_
  exact sound.phase.congr rfl inFlight rfl

theorem Sound.enqueueRaised (io : DiskIO) {error : AppendError} (sound : Sound codec system)
    (duty : event.tier = .dutyCritical) (new : event.eventId.value ∉ system.used)
    (later : system.clock ≤ io.now)
    (raised : (system.outbox.append codec io event).2 = .error error) :
    Sound codec (system.enqueue codec io event) ∧
      Moves system (system.enqueue codec io event) 0 [] := by
  have outbox := @enqueue_duty_outbox codec io system event duty
  have inFlight := @enqueue_duty_inFlight codec io system event duty
  have clock : (system.enqueue codec io event).clock = io.now := if_pos duty
  have appended : (system.enqueue codec io event).appended = system.appended := by
    have refused : (system.daemon.queue.enqueue codec io event).2 = .error error := by
      rw [enqueue_duty_returned duty, raised]
      rfl
    exact enqueue_raised refused
  obtain ⟨pending, limits, bytes, intact⟩ := sound.intact.appendFailed new later raised
  refine ⟨⟨?_, ?_, ?_, sound.phase.congr rfl inFlight rfl⟩, ?_, Nat.zero_le _, ?_, ?_, ?_⟩
  · rw [outbox, clock]
    exact intact
  · intro other listed unconfirmed
    rw [outbox, pending]
    exact sound.kept other (appended ▸ listed) unconfirmed
  · intro id record found
    rw [inFlight] at found
    show (system.enqueue codec io event).outbox.pending.head? = _ ∧ _
    rw [outbox, pending]
    exact sound.inFlight id record found
  · rw [outbox, pending, List.append_nil, List.drop_zero]
  · rw [appended, List.map_nil, List.append_nil]
  · rw [outbox, limits]
  · rw [outbox, bytes]
    exact Nat.le_max_right ..

theorem Sound.enqueueAppended (io : DiskIO) {record : OutboxRecord} (lawful : LawfulCodec codec)
    (sound : Sound codec system) (duty : event.tier = .dutyCritical)
    (new : event.eventId.value ∉ system.used) (later : system.clock ≤ io.now)
    (returned : (system.outbox.append codec io event).2 = .ok record) :
    Sound codec (system.enqueue codec io event) ∧
      Moves system (system.enqueue codec io event) 0 [record] := by
  have outbox := @enqueue_duty_outbox codec io system event duty
  have inFlight := @enqueue_duty_inFlight codec io system event duty
  have clock : (system.enqueue codec io event).clock = io.now := if_pos duty
  have appended : (system.enqueue codec io event).appended = system.appended ++ [event] := by
    have accepted : (system.daemon.queue.enqueue codec io event).2 = .ok true := by
      rw [enqueue_duty_returned duty, returned]
      rfl
    rw [enqueue_accepted accepted, if_pos duty]
  obtain ⟨own, pending, limits, bytes, intact⟩ := sound.intact.append lawful new later returned
  refine ⟨⟨?_, ?_, ?_, sound.phase.congr rfl inFlight rfl⟩, ?_, Nat.zero_le _, ?_, ?_, ?_⟩
  · rw [outbox, clock]
    exact intact
  · intro other listed unconfirmed
    rw [outbox, pending]
    rw [appended] at listed
    rcases List.mem_append.1 listed with early | late
    · obtain ⟨held, there, same⟩ := sound.kept other early unconfirmed
      exact ⟨held, List.mem_append_left _ there, same⟩
    · cases List.mem_singleton.1 late
      exact ⟨record, List.mem_append_right _ (List.mem_singleton.2 rfl), own ▸ .refl _⟩
  · -- the new record goes behind the oldest one, which is the one in flight
    intro id held found
    rw [inFlight] at found
    obtain ⟨oldest, named⟩ := sound.inFlight id held found
    show (system.enqueue codec io event).outbox.pending.head? = _ ∧ _
    rw [outbox, pending]
    refine ⟨?_, named⟩
    rw [List.head?_append, show system.outbox.pending.head? = some held from oldest]
    rfl
  · rw [outbox, pending, List.drop_zero]
  · rw [appended, List.map_singleton, own]
  · rw [outbox, limits]
  · rw [outbox]
    exact bytes.trans (Nat.le_max_left ..)

theorem Sound.enqueueDuty (io : DiskIO) (lawful : LawfulCodec codec) (sound : Sound codec system)
    (duty : event.tier = .dutyCritical) (new : event.eventId.value ∉ system.used)
    (later : system.clock ≤ io.now) :
    Sound codec (system.enqueue codec io event) ∧
      ∃ newer, Moves system (system.enqueue codec io event) 0 newer := by
  cases returned : (system.outbox.append codec io event).2 with
  | error error =>
    obtain ⟨next, moves⟩ := sound.enqueueRaised io duty new later returned
    exact ⟨next, [], moves⟩
  | ok record =>
    obtain ⟨next, moves⟩ := sound.enqueueAppended io lawful duty new later returned
    exact ⟨next, [record], moves⟩

/-! ## The loop -/

theorem dequeueFromSpool_frame (queue : BoundedEventQueue) (filepath : FileName)
    (rest : List FileName) :
    (queue.dequeueFromSpool codec io filepath rest).1.outbox = queue.outbox ∧
      (queue.dequeueFromSpool codec io filepath rest).1.inFlightOutbox = queue.inFlightOutbox := by
  unfold BoundedEventQueue.dequeueFromSpool
  dsimp only
  split
  · exact ⟨rfl, rfl⟩
  · split <;> exact ⟨rfl, rfl⟩

theorem dequeue_cases (codec : EventCodec) (io : DiskIO) (queue : BoundedEventQueue) :
    (∃ record rest, queue.outbox.pending = record :: rest ∧
        queue.dequeue codec io =
          ({ queue with
              inFlightOutbox := queue.inFlightOutbox.set record.event.eventId.value record },
            some record.event)) ∨
      (queue.outbox.pending = [] ∧ (queue.dequeue codec io).1.outbox = queue.outbox ∧
        (queue.dequeue codec io).1.inFlightOutbox = queue.inFlightOutbox) := by
  unfold BoundedEventQueue.dequeue DurableOutbox.peek
  cases pending : queue.outbox.pending with
  | cons record rest => exact .inl ⟨record, rest, rfl, rfl⟩
  | nil =>
    refine .inr ⟨rfl, ?_⟩
    dsimp only [List.head?_nil]
    split
    · exact ⟨rfl, rfl⟩
    · next filepath rest _ _ => exact dequeueFromSpool_frame queue filepath rest
    · exact ⟨rfl, rfl⟩

theorem drawEvent_cases (codec : EventCodec) (io : DiskIO) (recovered : Bool) (daemon : Daemon) :
    daemon.drawEvent codec io recovered = daemon ∨
      ∃ circuit, daemon.phase = .idle ∧ probeCircuit recovered daemon.circuit = some circuit ∧
        daemon.drawEvent codec io recovered =
          { daemon with
            queue := (daemon.queue.dequeue codec io).1
            circuit := circuit
            phase := match (daemon.queue.dequeue codec io).2 with
              | some event => .publishing event
              | none => .idle } := by
  unfold Daemon.drawEvent
  cases phase : daemon.phase with
  | publishing event => exact .inl rfl
  | published event => exact .inl rfl
  | idle =>
    cases probed : probeCircuit recovered daemon.circuit with
    | none => exact .inl rfl
    | some circuit => exact .inr ⟨circuit, rfl, rfl, rfl⟩

section

variable (io : DiskIO)

theorem Sound.drawEvent (sound : Sound codec system) (recovered : Bool) :
    Sound codec (system.step codec (.drawEvent io recovered)) ∧
      Moves system (system.step codec (.drawEvent io recovered)) 0 [] := by
  rcases drawEvent_cases codec io recovered system.daemon with same | ⟨circuit, idle, -, drawn⟩
  · have unchanged : system.step codec (.drawEvent io recovered) = system := by
      show { system with daemon := system.daemon.drawEvent codec io recovered } = system
      rw [same]
    rw [unchanged]
    exact sound.frame rfl rfl rfl (List.Subset.refl _) (List.Subset.refl _) rfl sound.phase
  · rcases dequeue_cases codec io system.daemon.queue with
      ⟨record, rest, pending, served⟩ | ⟨pending, outbox, inFlight⟩
    · -- the oldest record goes in flight; only it was in flight before
      rw [served] at drawn
      have outbox : (system.step codec (.drawEvent io recovered)).outbox = system.outbox := by
        show (system.daemon.drawEvent codec io recovered).queue.outbox = _
        rw [drawn]
        rfl
      refine ⟨⟨?_, ?_, ?_, ?_⟩, ?_, Nat.zero_le _, ?_, by rw [outbox], ?_⟩
      · rw [outbox]
        exact sound.intact
      · rw [outbox]
        exact sound.kept
      · show InFlightOldest (system.daemon.drawEvent codec io recovered).queue
        rw [drawn]
        intro id held found
        dsimp only at found ⊢
        by_cases own : id = record.event.eventId.value
        · subst own
          rw [OrderedDict.get?_set_self] at found
          cases found
          rw [pending]
          exact ⟨rfl, rfl⟩
        · rw [OrderedDict.get?_set_other own] at found
          exact sound.inFlight id held found
      · show PhaseSound { system with daemon := system.daemon.drawEvent codec io recovered }
        rw [drawn]
        intro held found
        dsimp only at found
        rw [OrderedDict.get?_set_self] at found
        cases found
        rfl
      · rw [outbox, List.append_nil, List.drop_zero]
      · exact (List.append_nil _).symm
      · rw [outbox]
        exact Nat.le_max_right ..
    · -- the outbox is empty, so nothing is in flight
      refine sound.frame ?_ ?_ rfl (List.Subset.refl _) (List.Subset.refl _) rfl ?_
      · show (system.daemon.drawEvent codec io recovered).queue.outbox = _
        rw [drawn]
        exact outbox
      · show (system.daemon.drawEvent codec io recovered).queue.inFlightOutbox = _
        rw [drawn]
        exact inFlight
      · show PhaseSound { system with daemon := system.daemon.drawEvent codec io recovered }
        rw [drawn]
        unfold PhaseSound
        dsimp only
        cases (system.daemon.queue.dequeue codec io).2 with
        | none => exact True.intro
        | some event =>
          intro held found
          rw [inFlight] at found
          have oldest := (sound.inFlight _ held found).1
          rw [pending] at oldest
          cases oldest

theorem Sound.publishSucceeds (sound : Sound codec system) :
    Sound codec (system.step codec .publishSucceeds) ∧
      Moves system (system.step codec .publishSucceeds) 0 [] := by
  have queue : (system.step codec .publishSucceeds).daemon.queue = system.daemon.queue := by
    show system.daemon.publishSucceeds.queue = _
    unfold Daemon.publishSucceeds
    split <;> rfl
  have confirmed : system.confirmed ⊆ system.confirmNow := by
    unfold System.confirmNow
    split
    · exact List.subset_cons_self ..
    · exact List.Subset.refl _
  refine sound.frame (congrArg BoundedEventQueue.outbox queue)
    (congrArg BoundedEventQueue.inFlightOutbox queue) rfl confirmed (List.Subset.refl _) rfl ?_
  have phase := sound.phase
  unfold PhaseSound at phase ⊢
  show (match system.daemon.publishSucceeds.phase with
    | .idle => True
    | .publishing event => ServedBy (system.step codec .publishSucceeds).daemon.queue event
    | .published event => ServedBy (system.step codec .publishSucceeds).daemon.queue event ∧
        event.eventId.value ∈ system.confirmNow)
  rw [queue]
  unfold Daemon.publishSucceeds System.confirmNow
  cases now : system.daemon.phase with
  | idle => simp only [now]
  | publishing event =>
    rw [now] at phase
    exact ⟨phase, List.mem_cons_self⟩
  | published event =>
    rw [now] at phase
    simp only [now]
    exact phase

theorem publishFails_frame (codec : EventCodec) (io : DiskIO) (daemon : Daemon) :
    (daemon.publishFails codec io).queue.outbox = daemon.queue.outbox ∧
      (daemon.publishFails codec io).queue.inFlightOutbox = daemon.queue.inFlightOutbox ∧
      ((daemon.publishFails codec io).phase = daemon.phase ∨
        (daemon.publishFails codec io).phase = .idle) := by
  unfold Daemon.publishFails
  cases phase : daemon.phase with
  | idle => exact ⟨rfl, rfl, .inl phase⟩
  | published event => exact ⟨rfl, rfl, .inl phase⟩
  | publishing event =>
    dsimp only
    cases tier : event.tier with
    | dutyCritical => exact ⟨rfl, rfl, .inr rfl⟩
    | telemetry =>
      obtain ⟨accepted, returned, outbox, inFlight, -⟩ :=
        daemon.queue.enqueue_telemetry codec io tier
      dsimp only
      unfold Daemon.retryTelemetry
      dsimp only
      rw [returned]
      split
      · exact ⟨rfl, rfl, .inr rfl⟩
      · cases accepted <;> exact ⟨outbox, inFlight, .inr rfl⟩

theorem Sound.publishFails (sound : Sound codec system) :
    Sound codec (system.step codec (.publishFails io)) ∧
      Moves system (system.step codec (.publishFails io)) 0 [] := by
  obtain ⟨outbox, inFlight, phase⟩ := publishFails_frame codec io system.daemon
  refine sound.frame outbox inFlight rfl (List.Subset.refl _) (List.Subset.refl _) rfl ?_
  rcases phase with same | idle
  · exact sound.phase.congr same inFlight rfl
  · unfold PhaseSound
    rw [show (system.step codec (.publishFails io)).daemon.phase = .idle from idle]
    exact True.intro

/-! ## Acknowledgement -/

/-- What the acknowledgement of a served event leaves: exactly its record is gone, and with it
its file unless the removal raises. -/
structure RemovesOldest (before after : DurableOutbox) (event : ModelQueuedEvent)
    (record : OutboxRecord) (rest : List OutboxRecord) : Prop where
  oldest : before.pending = record :: rest
  own : record.event = event
  pending : after.pending = rest
  bytes : after.pendingBytes + record.sizeBytes = before.pendingBytes
  directory : after.directory = before.directory.erase record.path ∨
    after.directory = before.directory
  limits : after.limits = before.limits

theorem Sound.ack_cases (sound : Sound codec system)
    (published : system.daemon.phase = .published event) :
    (system.daemon.queue.inFlightOutbox.get? event.eventId.value = none ∧
        system.daemon.queue.ack io event = system.daemon.queue) ∨
      ∃ record rest, system.daemon.queue.inFlightOutbox.get? event.eventId.value = some record ∧
        system.daemon.queue.ack io event =
          { system.daemon.queue with
            inFlightOutbox := system.daemon.queue.inFlightOutbox.erase event.eventId.value
            outbox := system.outbox.ack io record } ∧
        RemovesOldest system.outbox (system.outbox.ack io record) event record rest := by
  unfold BoundedEventQueue.ack
  cases flying : system.daemon.queue.inFlightOutbox.get? event.eventId.value with
  | none => exact .inl ⟨rfl, rfl⟩
  | some record =>
    obtain ⟨head, named⟩ := sound.inFlight _ record flying
    obtain ⟨rest, first⟩ := List.head?_eq_some_iff.1 head
    have oldest : system.outbox.pending = record :: rest := first
    have phase := sound.phase
    unfold PhaseSound at phase
    rw [published] at phase
    refine .inr ⟨record, rest, rfl, rfl, oldest, phase.1 record flying, ?_, ?_, ?_, ?_⟩
    · rw [DurableOutbox.ack_oldest oldest]
    · rw [DurableOutbox.ack_oldest oldest]
      show system.outbox.pendingBytes - record.sizeBytes + record.sizeBytes = _
      refine Nat.sub_add_cancel ?_
      rw [sound.intact.bytes, oldest, List.map_cons, List.sum_cons]
      exact Nat.le_add_right ..
    · rw [DurableOutbox.ack_oldest oldest]
      exact DurableOutbox.unlink_cases io _ record.path
    · rw [DurableOutbox.ack_oldest oldest]

/-- The number of records that the action removes. -/
def acksOf (system : System) (action : Action) : ℕ := if acksRecord system action then 1 else 0

theorem acksOf_published (phase : system.daemon.phase = .published event) :
    acksOf system (.ackPublished io) =
      if (system.daemon.queue.inFlightOutbox.get? event.eventId.value).isSome then 1 else 0 := by
  unfold acksOf acksRecord
  rw [phase]

theorem Sound.ackRemoved (sound : Sound codec system) {record : OutboxRecord}
    {rest : List OutboxRecord} (phase : system.daemon.phase = .published event)
    (flying : system.daemon.queue.inFlightOutbox.get? event.eventId.value = some record)
    (queue : (system.step codec (.ackPublished io)).daemon.queue =
      { system.daemon.queue with
        inFlightOutbox := system.daemon.queue.inFlightOutbox.erase event.eventId.value
        outbox := system.outbox.ack io record })
    (oldest : RemovesOldest system.outbox (system.outbox.ack io record) event record rest)
    (idle : PhaseSound (system.step codec (.ackPublished io))) :
    Sound codec (system.step codec (.ackPublished io)) ∧
      Moves system (system.step codec (.ackPublished io)) 1 [] := by
  have outbox : (system.step codec (.ackPublished io)).outbox = system.outbox.ack io record := by
    unfold System.outbox
    rw [queue]
    rfl
  have published := sound.phase
  unfold PhaseSound at published
  rw [phase] at published
  refine ⟨⟨?_, ?_, ?_, idle⟩, ?_, ?_, (List.append_nil _).symm, ?_, ?_⟩
  · rw [outbox]
    exact sound.intact.ack oldest.oldest
  · intro kept listed unconfirmed
    obtain ⟨held, there, same⟩ := sound.kept kept listed unconfirmed
    rw [outbox, oldest.pending]
    rw [oldest.oldest] at there
    rcases List.mem_cons.1 there with first | later
    · -- the removed record's event is confirmed
      subst first
      have confirmed : kept.eventId.value ∈ system.confirmed := by
        rw [← same.eventId, oldest.own]
        exact published.2
      exact absurd confirmed unconfirmed
    · exact ⟨held, later, same⟩
  · -- only the oldest record was in flight, under the event's id
    intro id held found
    rw [queue] at found
    dsimp only at found
    by_cases same : id = event.eventId.value
    · rw [same, OrderedDict.get?_erase_self] at found
      cases found
    · rw [OrderedDict.get?_erase_other same] at found
      obtain ⟨head, named⟩ := sound.inFlight id held found
      obtain ⟨head', named'⟩ := sound.inFlight _ record flying
      rw [head] at head'
      cases head'
      exact absurd (named.symm.trans named') same
  · rw [outbox, oldest.pending, oldest.oldest, List.append_nil]
    rfl
  · rw [oldest.oldest, List.append_nil]
    exact Nat.succ_le_succ (Nat.zero_le _)
  · rw [outbox]
    exact oldest.limits
  · rw [outbox]
    have bytes := oldest.bytes
    omega

theorem Sound.ackPublished (sound : Sound codec system) :
    Sound codec (system.step codec (.ackPublished io)) ∧
      Moves system (system.step codec (.ackPublished io)) (acksOf system (.ackPublished io)) [] := by
  have unpublished : system.daemon.ackPublished io = system.daemon →
      acksOf system (.ackPublished io) = 0 →
      Sound codec (system.step codec (.ackPublished io)) ∧
        Moves system (system.step codec (.ackPublished io)) (acksOf system (.ackPublished io)) [] := by
    intro unchanged none_
    have same : system.step codec (.ackPublished io) = system := by
      show { system with daemon := system.daemon.ackPublished io } = system
      rw [unchanged]
    rw [same, none_]
    exact sound.frame rfl rfl rfl (List.Subset.refl _) (List.Subset.refl _) rfl sound.phase
  cases phase : system.daemon.phase with
  | idle =>
    refine unpublished ?_ ?_
    · unfold Daemon.ackPublished
      rw [phase]
    · unfold acksOf acksRecord
      rw [phase]
      rfl
  | publishing event =>
    refine unpublished ?_ ?_
    · unfold Daemon.ackPublished
      rw [phase]
    · unfold acksOf acksRecord
      rw [phase]
      rfl
  | published event =>
    have acked : system.daemon.ackPublished io =
        { system.daemon with queue := system.daemon.queue.ack io event, phase := .idle } := by
      unfold Daemon.ackPublished
      rw [phase]
    have idle : PhaseSound (system.step codec (.ackPublished io)) := by
      show PhaseSound { system with daemon := system.daemon.ackPublished io }
      rw [acked]
      exact True.intro
    have queue : (system.step codec (.ackPublished io)).daemon.queue =
        system.daemon.queue.ack io event := by
      show (system.daemon.ackPublished io).queue = _
      rw [acked]
    rw [acksOf_published io phase]
    rcases sound.ack_cases io phase with ⟨flying, same⟩ | ⟨record, rest, flying, removed, oldest⟩
    · rw [flying]
      rw [same] at queue
      exact sound.frame (congrArg BoundedEventQueue.outbox queue)
        (congrArg BoundedEventQueue.inFlightOutbox queue) rfl (List.Subset.refl _)
        (List.Subset.refl _) rfl idle
    · rw [flying]
      exact sound.ackRemoved io phase flying (queue.trans removed) oldest idle

/-! ## Restart -/

theorem loadSpool_frame (queue : BoundedEventQueue) :
    (queue.loadSpool io).outbox = queue.outbox ∧
      (queue.loadSpool io).inFlightOutbox = queue.inFlightOutbox := by
  have files : ∀ (paths : List FileName) (start : BoundedEventQueue),
      (paths.foldl (BoundedEventQueue.loadSpoolFile io) start).outbox = start.outbox ∧
        (paths.foldl (BoundedEventQueue.loadSpoolFile io) start).inFlightOutbox =
          start.inFlightOutbox := by
    intro paths
    induction paths with
    | nil => exact fun _ => ⟨rfl, rfl⟩
    | cons path rest ih =>
      intro start
      obtain ⟨outbox, inFlight⟩ := ih (start.loadSpoolFile io path)
      have one : (start.loadSpoolFile io path).outbox = start.outbox ∧
          (start.loadSpoolFile io path).inFlightOutbox = start.inFlightOutbox := by
        unfold BoundedEventQueue.loadSpoolFile
        split <;> exact ⟨rfl, rfl⟩
      exact ⟨outbox.trans one.1, inFlight.trans one.2⟩
  exact files _ _

end

theorem restart_frame (codec : EventCodec) (io : DiskIO) (limits : QueueLimits)
    (outboxLimits : OutboxLimits) (spoolDirectory outboxDirectory : Directory) :
    (BoundedEventQueue.restart codec io limits outboxLimits spoolDirectory
        outboxDirectory).outbox =
        DurableOutbox.loadPending codec io ⟨outboxLimits, [], 0, outboxDirectory⟩ ∧
      (BoundedEventQueue.restart codec io limits outboxLimits spoolDirectory
        outboxDirectory).inFlightOutbox = .empty := by
  unfold BoundedEventQueue.restart BoundedEventQueue.loadOutbox
  dsimp only
  rw [(loadSpool_frame io _).1, (loadSpool_frame io _).2]
  exact ⟨rfl, rfl⟩

theorem Sound.restarted (reads : ∀ path, io.readRaises path = false) {limits : QueueLimits}
    {outboxLimits : OutboxLimits} {spoolDirectory outboxDirectory : Directory}
    (queue : system.daemon.queue = .restart codec io limits outboxLimits spoolDirectory
      outboxDirectory) (idle : system.daemon.phase = .idle)
    (known : DurableOutbox.Known outboxDirectory system.used system.clock)
    (kept : ∀ event ∈ system.appended, event.eventId.value ∉ system.confirmed →
      ∃ record, DurableOutbox.Stored codec outboxDirectory record ∧ SameEvent event record.event) :
    Sound codec system := by
  obtain ⟨outbox, inFlight⟩ :=
    restart_frame codec io limits outboxLimits spoolDirectory outboxDirectory
  have loaded : system.outbox =
      DurableOutbox.loadPending codec io ⟨outboxLimits, [], 0, outboxDirectory⟩ := by
    unfold System.outbox
    rw [queue, outbox]
  obtain ⟨intact, restored⟩ :=
    DurableOutbox.Intact.load codec ⟨outboxLimits, [], 0, outboxDirectory⟩ reads known
  refine ⟨?_, ?_, ?_, ?_⟩
  · rw [loaded]
    exact intact
  · intro event listed unconfirmed
    obtain ⟨record, stored, same⟩ := kept event listed unconfirmed
    obtain ⟨found, there, same'⟩ := restored record stored
    rw [loaded]
    exact ⟨found, there, same.trans same'⟩
  · intro id record found
    rw [queue, inFlight, OrderedDict.get?_empty] at found
    cases found
  · unfold PhaseSound
    rw [idle]
    exact True.intro

theorem Sound.crash (sound : Sound codec system) (reads : ∀ path, io.readRaises path = false) :
    Sound codec (system.step codec (.crash io)) := by
  have kept : ∀ event ∈ system.appended, event.eventId.value ∉ system.confirmed →
      ∃ record, DurableOutbox.Stored codec system.outbox.directory record ∧
        SameEvent event record.event := by
    intro event listed unconfirmed
    obtain ⟨record, there, same⟩ := sound.kept event listed unconfirmed
    exact ⟨record, sound.intact.stored record there, same⟩
  exact Sound.restarted reads rfl rfl sound.intact.known kept

theorem Starts.sound (starts : Starts codec system) : Sound codec system := by
  obtain ⟨⟨settings, io, limits, outboxLimits, spoolDirectory, outboxDirectory, reads, daemon, known⟩,
    nothing, -⟩ := starts
  refine Sound.restarted reads (by rw [daemon]) (by rw [daemon]) known ?_
  intro event listed
  rw [nothing] at listed
  cases listed

theorem Sound.step (lawful : LawfulCodec codec) (sound : Sound codec system) {action : Action}
    (admissible : Admissible system action) :
    Sound codec (system.step codec action) ∧
      (isCrash action = false →
        ∃ newer, Moves system (system.step codec action) (acksOf system action) newer) := by
  cases action with
  | enqueue event io =>
    obtain ⟨new, later⟩ := admissible
    cases tier : event.tier with
    | dutyCritical =>
      obtain ⟨next, moves⟩ := sound.enqueueDuty io lawful tier new (later tier)
      exact ⟨next, fun _ => moves⟩
    | telemetry =>
      obtain ⟨next, moves⟩ := sound.enqueueTelemetry io tier
      exact ⟨next, fun _ => ⟨[], moves⟩⟩
  | drawEvent io recovered =>
    obtain ⟨next, moves⟩ := sound.drawEvent io recovered
    exact ⟨next, fun _ => ⟨[], moves⟩⟩
  | publishSucceeds =>
    obtain ⟨next, moves⟩ := sound.publishSucceeds
    exact ⟨next, fun _ => ⟨[], moves⟩⟩
  | publishFails io =>
    obtain ⟨next, moves⟩ := sound.publishFails io
    exact ⟨next, fun _ => ⟨[], moves⟩⟩
  | ackPublished io =>
    obtain ⟨next, moves⟩ := sound.ackPublished io
    exact ⟨next, fun _ => ⟨[], moves⟩⟩
  | crash io => exact ⟨sound.crash admissible, nofun⟩

theorem Reachable.sound (lawful : LawfulCodec codec) (reachable : Reachable codec system) :
    Sound codec system := by
  induction reachable with
  | start starts => exact starts.sound
  | step _ admissible ih => exact (ih.step lawful admissible).1

end

end OmniMarket.EmitDaemon
