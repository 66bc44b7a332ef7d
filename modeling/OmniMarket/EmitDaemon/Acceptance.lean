import OmniMarket.EmitDaemon.Queue
import OmniMarket.Lib.Raising

/-!
# What an accepted emit request promises

The fan-out goes through the rules in order. A rule whose payload cannot be encoded or is too
large is skipped, whatever its tier. A duty-critical event that finds the outbox full ends the
request with an error, whatever was appended before it.
-/

namespace OmniMarket.EmitDaemon

open FirstFailure

/-! ## The property -/

structure Carries (payload : PyDict) (rule : FanOutRule) (record : OutboxRecord) : Prop where
  topic : record.event.topic.value = rule.topic
  payload : ∃ transformed, rule.applyTransform payload = some transformed ∧
    record.event.payload = .dict transformed

def FanOutRule.isDuty (rule : FanOutRule) : Bool := decide (rule.tier = .dutyCritical)

def dutyRules (registration : EventRegistration) : List FanOutRule :=
  registration.fanOut.filter FanOutRule.isDuty

/-- A reply of `queued` comes with a record for every duty-critical rule, an error with none. -/
def AcceptanceDurable (env : EmitEnv) (io : ℕ → RuleIO) (queue : BoundedEventQueue)
    (request : ModelDaemonEmitRequest) : Prop :=
  let handled := handleEmit env io queue request
  match handled.2 with
  | .error _ => True
  | .ok (.error _) => handled.1.outbox.pending = queue.outbox.pending
  | .ok (.queued _) =>
    ∃ registration payload appended, checkRequest env request = .ok (registration, payload) ∧
      handled.1.outbox.pending = queue.outbox.pending ++ appended ∧
      List.Forall₂ (Carries payload) (dutyRules registration) appended

/-! ## The condition -/

abbrev Target := FanOutRule × RuleIO

section

variable (env : EmitEnv) (eventType : NonEmptyString) (payload : PyDict)
  (queue : BoundedEventQueue)

def dutyEvent (target : Target) : Option ModelQueuedEvent :=
  match prepareEvent env eventType payload target.1 target.2 with
  | .ready event => if event.tier = .dutyCritical then some event else none
  | _ => none

def eventSize (event : ModelQueuedEvent) : ℕ :=
  ((env.codec.dumpJson event).map encodedSize).getD 0

section

variable (targets : List Target)

def RoomFor : Prop :=
  let events := targets.filterMap (dutyEvent env eventType payload)
  events ≠ [] → queue.outbox.HasRoom (events.map (eventSize env))

def Quiet (target : Target) : Prop :=
  match prepareEvent env eventType payload target.1 target.2 with
  | .raises _ => False
  | .skipped => True
  | .ready event =>
    event.tier = .dutyCritical →
      (env.codec.dumpJson event).isSome = true ∧ target.2.disk.write = .written

/-- The fan-out gets past these targets. -/
structure GoesThrough : Prop where
  quiet : ∀ target ∈ targets, Quiet env eventType payload target
  room : RoomFor env eventType payload queue targets

structure SpoolTakes (event : ModelQueuedEvent) (disk : DiskIO) : Prop where
  enabled : BoundedEventQueue.spoolingDisabled queue.limits = false
  dumped : (env.codec.dumpJson event).isSome = true
  fits : (eventSize env event : ℤ) ≤ queue.limits.maxSpoolBytes
  directory : disk.mkdirRaises = false
  written : disk.write = .written

def Taken (target : Target) : Prop :=
  ∃ event, prepareEvent env eventType payload target.1 target.2 = .ready event ∧
    (event.tier = .telemetry →
      (queue.memoryQueue.length : ℤ) < queue.limits.maxMemoryQueue ∨
        SpoolTakes env queue event target.2.disk)

/-- The fan-out gets past every target, skips a duty-critical rule and takes another event. -/
structure SkipsDuty : Prop where
  through : GoesThrough env eventType payload queue targets
  skipped : ∃ target ∈ targets, target.1.tier = .dutyCritical ∧
    prepareEvent env eventType payload target.1 target.2 = .skipped
  taken : ∃ target ∈ targets, Taken env eventType payload queue target

def FillsUp : Prop :=
  ∃ before target after event, targets = before ++ target :: after ∧
    GoesThrough env eventType payload queue before ∧
    before.filterMap (dutyEvent env eventType payload) ≠ [] ∧
    dutyEvent env eventType payload target = some event ∧
    (env.codec.dumpJson event).isSome = true ∧
    ¬ RoomFor env eventType payload queue (before ++ [target])

end

end

/-! ## Targets -/

variable {before after : List Target}

section

variable {env : EmitEnv} {eventType : NonEmptyString} {payload : PyDict}
  {queue : BoundedEventQueue} {target : Target} {event : ModelQueuedEvent}

theorem prepareEvent_ready
    (ready : prepareEvent env eventType payload target.1 target.2 = .ready event) :
    event.tier = target.1.tier ∧ event.topic.value = target.1.topic ∧
      event.eventId = target.2.eventId ∧
      ∃ transformed, target.1.applyTransform payload = some transformed ∧
        event.payload = .dict transformed := by
  unfold prepareEvent at ready
  split at ready
  · cases ready
  · next transformed applied =>
    split at ready
    · cases ready
    · split at ready
      · cases ready
      · split at ready
        · cases ready
        · next topic named =>
          cases ready
          exact ⟨rfl, NonEmptyString.validate?_eq_some.1 named, rfl, transformed, applied, rfl⟩

theorem dutyEvent_eq_some :
    dutyEvent env eventType payload target = some event ↔
      prepareEvent env eventType payload target.1 target.2 = .ready event ∧
        event.tier = .dutyCritical := by
  unfold dutyEvent
  cases prepared : prepareEvent env eventType payload target.1 target.2 with
  | raises error => simp
  | skipped => simp
  | ready other =>
    dsimp only
    split
    · next duty =>
      constructor
      · intro same
        cases same
        exact ⟨rfl, duty⟩
      · rintro ⟨same, -⟩
        cases same
        rfl
    · next notDuty =>
      constructor
      · intro impossible
        cases impossible
      · rintro ⟨same, duty⟩
        cases same
        exact absurd duty notDuty

theorem goesThrough_nil : GoesThrough env eventType payload queue [] :=
  ⟨fun _ listed => absurd listed List.not_mem_nil, fun some_ => absurd rfl some_⟩

theorem goesThrough_closed : PrefixClosed (GoesThrough env eventType payload queue) := by
  rintro before after ⟨quiet, room⟩
  refine ⟨fun target listed => quiet target (List.mem_append_left _ listed), ?_⟩
  intro some_
  have whole := room (by
    rw [List.filterMap_append]
    exact List.append_ne_nil_of_left_ne_nil some_ _)
  rw [List.filterMap_append, List.map_append] at whole
  obtain ⟨messages, bytes⟩ := whole
  rw [List.length_append] at messages
  rw [List.sum_append] at bytes
  exact ⟨by omega, by omega⟩

/-! ## Going through the rules -/

/-- The queue and the last accepted id after the fan-out has got past the targets. -/
structure Walked (env : EmitEnv) (eventType : NonEmptyString) (payload : PyDict)
    (queue next : BoundedEventQueue) (last next_ : Option NonEmptyString)
    (targets : List Target) : Prop where
  limits : next.outbox.limits = queue.outbox.limits
  appended : ∃ records, next.outbox.pending = queue.outbox.pending ++ records ∧
    records.map OutboxRecord.event = targets.filterMap (dutyEvent env eventType payload)
  bytes : next.outbox.pendingBytes = queue.outbox.pendingBytes +
    ((targets.filterMap (dutyEvent env eventType payload)).map (eventSize env)).sum
  taken : next_.isSome = true ↔
    last.isSome = true ∨ ∃ target ∈ targets, Taken env eventType payload queue target
  idle : next_.isSome = false → next.memoryQueue = queue.memoryQueue ∧ next.limits = queue.limits

variable {last : Option NonEmptyString}

theorem Walked.refl :
    Walked env eventType payload queue queue last last [] where
  limits := rfl
  appended := ⟨[], (List.append_nil _).symm, rfl⟩
  bytes := rfl
  taken := ⟨.inl, fun taken => taken.resolve_right (by rintro ⟨_, listed, _⟩; cases listed)⟩
  idle _ := ⟨rfl, rfl⟩

variable {next : BoundedEventQueue}

theorem taken_congr (memory : next.memoryQueue = queue.memoryQueue)
    (limits : next.limits = queue.limits) :
    Taken env eventType payload next target ↔ Taken env eventType payload queue target := by
  have spool : ∀ event disk, SpoolTakes env next event disk ↔ SpoolTakes env queue event disk := by
    intro event disk
    constructor
    · rintro ⟨enabled, dumped, fits, directory, written⟩
      exact ⟨limits ▸ enabled, dumped, limits ▸ fits, directory, written⟩
    · rintro ⟨enabled, dumped, fits, directory, written⟩
      exact ⟨limits.symm ▸ enabled, dumped, limits.symm ▸ fits, directory, written⟩
  simp only [Taken, memory, limits, spool]

variable {next_ : Option NonEmptyString}

theorem Walked.trans {final : BoundedEventQueue} {final_ : Option NonEmptyString}
    (first : Walked env eventType payload queue next last next_ before)
    (second : Walked env eventType payload next final next_ final_ after) :
    Walked env eventType payload queue final last final_ (before ++ after) := by
  obtain ⟨records, pending, events⟩ := first.appended
  obtain ⟨records', pending', events'⟩ := second.appended
  refine ⟨second.limits.trans first.limits, ⟨records ++ records', ?_, ?_⟩, ?_, ?_, ?_⟩
  · rw [pending', pending, List.append_assoc]
  · rw [List.map_append, List.filterMap_append, events, events']
  · rw [second.bytes, first.bytes, List.filterMap_append, List.map_append, List.sum_append,
      Nat.add_assoc]
  · cases accepted : next_.isSome with
    | true =>
      -- something was taken before, so what the rest takes does not matter
      refine iff_of_true (second.taken.2 (.inl accepted)) ?_
      rcases first.taken.1 accepted with already | ⟨target, listed, taken⟩
      · exact .inl already
      · exact .inr ⟨target, List.mem_append_left _ listed, taken⟩
    | false =>
      obtain ⟨memory, limits⟩ := first.idle accepted
      have none_ := (not_congr first.taken).1 (Bool.eq_false_iff.1 accepted)
      rw [second.taken, accepted]
      constructor
      · rintro (impossible | ⟨target, listed, taken⟩)
        · cases impossible
        · exact .inr ⟨target, List.mem_append_right _ listed, (taken_congr memory limits).1 taken⟩
      · rintro (already | ⟨target, listed, taken⟩)
        · exact absurd (.inl already) none_
        · rcases List.mem_append.1 listed with early | late
          · exact absurd (.inr ⟨target, early, taken⟩) none_
          · exact .inr ⟨target, late, (taken_congr memory limits).2 taken⟩
  · intro rejected
    have idle : next_.isSome = false := by
      cases accepted : next_.isSome with
      | false => rfl
      | true =>
        rw [second.taken.2 (.inl accepted)] at rejected
        cases rejected
    obtain ⟨memory, limits⟩ := second.idle rejected
    obtain ⟨memory', limits'⟩ := first.idle idle
    exact ⟨memory.trans memory', limits.trans limits'⟩

theorem filterMap_singleton_ready
    (ready : prepareEvent env eventType payload target.1 target.2 = .ready event)
    (duty : event.tier = .dutyCritical) :
    [target].filterMap (dutyEvent env eventType payload) = [event] := by
  rw [List.filterMap_cons_some (dutyEvent_eq_some.2 ⟨ready, duty⟩), List.filterMap_nil]

theorem filterMap_singleton_other
    (other : ∀ event, dutyEvent env eventType payload target ≠ some event) :
    [target].filterMap (dutyEvent env eventType payload) = [] := by
  rw [List.filterMap_cons_none (Option.eq_none_iff_forall_ne_some.2 other), List.filterMap_nil]

def MovesOn (env : EmitEnv) (eventType : NonEmptyString) (payload : PyDict)
    (queue next : BoundedEventQueue) (last next_ : Option NonEmptyString)
    (targets : List Target) : Prop :=
  ∀ rest, fanOutLoop env eventType payload queue last (targets ++ rest) =
    fanOutLoop env eventType payload next next_ rest

section

variable (last : Option NonEmptyString)

theorem walk_skipped (skipped : prepareEvent env eventType payload target.1 target.2 = .skipped) :
    Walked env eventType payload queue queue last last [target] ∧
      MovesOn env eventType payload queue queue last last [target] := by
  have nothing : [target].filterMap (dutyEvent env eventType payload) = [] := by
    refine filterMap_singleton_other ?_
    intro event duty
    rw [(dutyEvent_eq_some.1 duty).1] at skipped
    cases skipped
  refine ⟨⟨rfl, ⟨[], (List.append_nil _).symm, nothing.symm⟩, ?_, ?_, fun _ => ⟨rfl, rfl⟩⟩, ?_⟩
  · rw [nothing]
    rfl
  · refine ⟨.inl, fun taken => taken.resolve_right ?_⟩
    rintro ⟨other, listed, event, ready, -⟩
    cases List.mem_singleton.1 listed
    rw [skipped] at ready
    cases ready
  · intro rest
    rw [List.singleton_append, fanOutLoop, skipped]

theorem walk_duty (ready : prepareEvent env eventType payload target.1 target.2 = .ready event)
    (duty : event.tier = .dutyCritical) (dumps : (env.codec.dumpJson event).isSome = true)
    (written : target.2.disk.write = .written) (room : queue.outbox.HasRoom [eventSize env event]) :
    ∃ next, Walked env eventType payload queue next last (some event.eventId) [target] ∧
      MovesOn env eventType payload queue next last (some event.eventId) [target] := by
  obtain ⟨eventJson, dumped⟩ := Option.isSome_iff_exists.1 dumps
  have size : eventSize env event = encodedSize eventJson := by
    rw [eventSize, dumped]
    rfl
  have some_ := filterMap_singleton_ready ready duty
  have appended := DurableOutbox.append_written dumped (size ▸ room) written
  refine ⟨{ queue with outbox := (queue.outbox.append env.codec target.2.disk event).1 },
    ⟨?_, ⟨[DurableOutbox.recordOf target.2.disk event eventJson], ?_, ?_⟩, ?_, ?_, nofun⟩, ?_⟩
  · rw [appended]
  · rw [appended]
  · rw [some_]
    rfl
  · rw [some_, appended, List.map_singleton, List.sum_singleton, size]
  · refine ⟨fun _ => .inr ⟨target, List.mem_singleton.2 rfl, event, ready, ?_⟩, fun _ => rfl⟩
    intro telemetry
    rw [duty] at telemetry
    cases telemetry
  · intro rest
    rw [List.singleton_append, fanOutLoop, ready]
    dsimp only
    rw [BoundedEventQueue.enqueue_duty duty, appended]
    rfl

theorem spoolTakes_iff {disk : DiskIO} : SpoolTakes env queue event disk ↔
    (BoundedEventQueue.spoolEvent env.codec disk queue event).2 = true := by
  rw [BoundedEventQueue.spoolEvent_taken]
  constructor
  · rintro ⟨enabled, dumps, fits, directory, written⟩
    obtain ⟨eventJson, dumped⟩ := Option.isSome_iff_exists.1 dumps
    rw [eventSize, dumped] at fits
    exact ⟨enabled, eventJson, dumped, fits, directory, written⟩
  · rintro ⟨enabled, eventJson, dumped, fits, directory, written⟩
    refine ⟨enabled, Option.isSome_iff_exists.2 ⟨eventJson, dumped⟩, ?_, directory, written⟩
    rw [eventSize, dumped]
    exact fits

theorem walk_telemetry (ready : prepareEvent env eventType payload target.1 target.2 = .ready event)
    (telemetry : event.tier = .telemetry) :
    ∃ next next_, Walked env eventType payload queue next last next_ [target] ∧
      MovesOn env eventType payload queue next last next_ [target] := by
  have nothing : [target].filterMap (dutyEvent env eventType payload) = [] := by
    refine filterMap_singleton_other ?_
    intro other duty
    obtain ⟨same, critical⟩ := dutyEvent_eq_some.1 duty
    rw [ready] at same
    cases same
    rw [telemetry] at critical
    cases critical
  obtain ⟨accepted, enqueued, outbox, -, takes, idle⟩ :=
    queue.enqueue_telemetry env.codec target.2.disk telemetry
  rw [← spoolTakes_iff] at takes
  have taken : accepted = true ↔ Taken env eventType payload queue target := by
    rw [takes]
    constructor
    · intro room
      exact ⟨event, ready, fun _ => room⟩
    · rintro ⟨other, same, room⟩
      rw [ready] at same
      cases same
      exact room telemetry
  have one : (∃ other ∈ [target], Taken env eventType payload queue other) ↔
      Taken env eventType payload queue target := by
    constructor
    · rintro ⟨other, listed, held⟩
      cases List.mem_singleton.1 listed
      exact held
    · intro held
      exact ⟨target, List.mem_singleton.2 rfl, held⟩
  refine ⟨(queue.enqueue env.codec target.2.disk event).1,
    if accepted then some event.eventId else last, ⟨?_, ⟨[], ?_, nothing.symm⟩, ?_, ?_, ?_⟩, ?_⟩
  · rw [outbox]
  · rw [outbox, List.append_nil]
  · rw [outbox, nothing]
    rfl
  · rw [one, ← taken]
    cases accepted with
    | true => exact ⟨fun _ => .inr rfl, fun _ => rfl⟩
    | false => exact ⟨.inl, fun held => held.resolve_right Bool.false_ne_true⟩
  · intro rejected
    cases accepted with
    | true => cases rejected
    | false => exact idle rfl
  · intro rest
    rw [List.singleton_append, fanOutLoop, ready]
    dsimp only
    rw [enqueued]
    cases accepted <;> rfl

theorem walk_one (through : GoesThrough env eventType payload queue [target]) :
    ∃ next next_, Walked env eventType payload queue next last next_ [target] ∧
      MovesOn env eventType payload queue next last next_ [target] := by
  have quiet := through.quiet target (List.mem_singleton.2 rfl)
  unfold Quiet at quiet
  cases prepared : prepareEvent env eventType payload target.1 target.2 with
  | raises error =>
    rw [prepared] at quiet
    exact quiet.elim
  | skipped => exact ⟨queue, last, walk_skipped last prepared⟩
  | ready event =>
    rw [prepared] at quiet
    cases tier : event.tier with
    | telemetry => exact walk_telemetry last prepared tier
    | dutyCritical =>
      obtain ⟨dumps, written⟩ := quiet tier
      have room := through.room
      unfold RoomFor at room
      rw [filterMap_singleton_ready prepared tier] at room
      obtain ⟨next, walked, moves⟩ :=
        walk_duty last prepared tier dumps written (room (List.cons_ne_nil _ _))
      exact ⟨next, _, walked, moves⟩

end

theorem Walked.goesThrough (walked : Walked env eventType payload queue next last next_ before)
    (through : GoesThrough env eventType payload queue (before ++ after)) :
    GoesThrough env eventType payload next after := by
  refine ⟨fun target listed => through.quiet target (List.mem_append_right _ listed), ?_⟩
  intro some_
  obtain ⟨records, pending, events⟩ := walked.appended
  have room := through.room (by
    rw [List.filterMap_append]
    exact List.append_ne_nil_of_right_ne_nil _ some_)
  rw [List.filterMap_append, List.map_append] at room
  have count : records.length = (before.filterMap (dutyEvent env eventType payload)).length := by
    rw [← events, List.length_map]
  obtain ⟨messages, bytes⟩ := room
  rw [List.length_append, List.length_map, ← count] at messages
  rw [List.sum_append] at bytes
  refine ⟨?_, ?_⟩
  · rw [pending, List.length_append, walked.limits]
    omega
  · rw [walked.bytes, walked.limits]
    omega

theorem walk_accepted (last : Option NonEmptyString) (targets : List Target)
    (through : GoesThrough env eventType payload queue targets) :
    ∃ next next_, Walked env eventType payload queue next last next_ targets ∧
      MovesOn env eventType payload queue next last next_ targets := by
  induction targets generalizing queue last with
  | nil => exact ⟨queue, last, .refl, fun _ => rfl⟩
  | cons target rest ih =>
    obtain ⟨next, next_, walked, moves⟩ := walk_one last (goesThrough_closed [target] rest through)
    obtain ⟨final, final_, walked', moves'⟩ := ih next_ (walked.goesThrough through)
    refine ⟨final, final_, walked.trans walked', ?_⟩
    intro after
    rw [List.cons_append, ← List.singleton_append, moves, moves']

/-! ## The target at which the fan-out stops -/

theorem Walked.room_iff (walked : Walked env eventType payload queue next last next_ before)
    (duty : dutyEvent env eventType payload target = some event) :
    RoomFor env eventType payload queue (before ++ [target]) ↔
      next.outbox.HasRoom [eventSize env event] := by
  obtain ⟨records, pending, events⟩ := walked.appended
  have count : records.length = (before.filterMap (dutyEvent env eventType payload)).length := by
    rw [← events, List.length_map]
  unfold RoomFor
  rw [List.filterMap_append, List.filterMap_cons_some duty, List.filterMap_nil]
  dsimp only
  rw [List.map_append]
  constructor
  · intro room
    obtain ⟨messages, bytes⟩ := room (List.append_ne_nil_of_right_ne_nil _ (List.cons_ne_nil _ _))
    rw [List.length_append, List.length_map, ← count] at messages
    rw [List.sum_append] at bytes
    refine ⟨?_, ?_⟩
    · rw [pending, List.length_append, walked.limits, Nat.add_assoc]
      exact messages
    · rw [walked.bytes, walked.limits, Nat.add_assoc]
      exact bytes
  · rintro ⟨messages, bytes⟩ -
    rw [pending, List.length_append, walked.limits, Nat.add_assoc] at messages
    rw [walked.bytes, walked.limits, Nat.add_assoc] at bytes
    refine ⟨?_, ?_⟩
    · rw [List.length_append, List.length_map, ← count]
      exact messages
    · rw [List.sum_append]
      exact bytes

def FindsNoRoom (env : EmitEnv) (eventType : NonEmptyString) (payload : PyDict)
    (queue : BoundedEventQueue) (before : List Target) (target : Target) : Prop :=
  ∃ event, dutyEvent env eventType payload target = some event ∧
    (env.codec.dumpJson event).isSome = true ∧
    ¬ RoomFor env eventType payload queue (before ++ [target])

def AppendedFor (env : EmitEnv) (eventType : NonEmptyString) (payload : PyDict)
    (queue next : BoundedEventQueue) (targets : List Target) : Prop :=
  ∃ records, next.outbox.pending = queue.outbox.pending ++ records ∧
    records.map OutboxRecord.event = targets.filterMap (dutyEvent env eventType payload)

theorem goesThrough_snoc (through : GoesThrough env eventType payload queue before)
    (quiet : Quiet env eventType payload target)
    (other : ∀ event, dutyEvent env eventType payload target ≠ some event) :
    GoesThrough env eventType payload queue (before ++ [target]) := by
  refine ⟨?_, ?_⟩
  · intro item listed
    rcases List.mem_append.1 listed with early | late
    · exact through.quiet item early
    · cases List.mem_singleton.1 late
      exact quiet
  · unfold RoomFor
    rw [List.filterMap_append, filterMap_singleton_other other, List.append_nil]
    exact through.room

variable {targets : List Target}

theorem fanOutLoop_stops_duty
    (fails : FailsAt (GoesThrough env eventType payload queue) targets before target after)
    (walked : Walked env eventType payload queue next last next_ before)
    (prepared : prepareEvent env eventType payload target.1 target.2 = .ready event)
    (tier : event.tier = .dutyCritical) :
    (FindsNoRoom env eventType payload queue before target ∧
        (∃ reason, (fanOutLoop env eventType payload next next_ (target :: after)).2 =
          .refused reason) ∧
        AppendedFor env eventType payload queue
          (fanOutLoop env eventType payload next next_ (target :: after)).1 before) ∨
      (¬ FindsNoRoom env eventType payload queue before target ∧
        ∃ error, (fanOutLoop env eventType payload next next_ (target :: after)).2 =
          .raised error) := by
  have duty : dutyEvent env eventType payload target = some event :=
    dutyEvent_eq_some.2 ⟨prepared, tier⟩
  rw [fanOutLoop, prepared]
  dsimp only
  rw [BoundedEventQueue.enqueue_duty tier]
  cases dumped : env.codec.dumpJson event with
  | none =>
    rw [DurableOutbox.append_notSerializable dumped]
    refine .inr ⟨?_, _, rfl⟩
    rintro ⟨other, same, dumps, -⟩
    rw [duty] at same
    cases same
    rw [dumped] at dumps
    cases dumps
  | some eventJson =>
    have size : eventSize env event = encodedSize eventJson := by
      rw [eventSize, dumped]
      rfl
    by_cases room : RoomFor env eventType payload queue (before ++ [target])
    · have fits := (walked.room_iff duty).1 room
      rw [size] at fits
      cases write : target.2.disk.write with
      | written =>
        -- an event that is written is passed, so the fan-out does not stop at it
        refine absurd ⟨?_, room⟩ fails.fails
        intro item listed
        rcases List.mem_append.1 listed with early | late
        · exact fails.accepted.quiet item early
        · cases List.mem_singleton.1 late
          unfold Quiet
          rw [prepared]
          intro _
          exact ⟨by rw [dumped]; rfl, write⟩
      | raised left =>
        rw [DurableOutbox.append_writeRaised dumped fits write]
        refine .inr ⟨?_, _, rfl⟩
        rintro ⟨-, -, -, full⟩
        exact full room
    · have full : ¬ next.outbox.HasRoom [encodedSize eventJson] := by
        rw [← size, ← walked.room_iff duty]
        exact room
      obtain ⟨message, refused⟩ :=
        DurableOutbox.append_full target.2.disk dumped full
      rw [refused]
      exact .inl ⟨⟨event, duty, by rw [dumped]; rfl, room⟩, ⟨_, rfl⟩, walked.appended⟩

theorem fanOutLoop_stops (last : Option NonEmptyString)
    (fails : FailsAt (GoesThrough env eventType payload queue) targets before target after) :
    (FindsNoRoom env eventType payload queue before target ∧
        (∃ reason, (fanOutLoop env eventType payload queue last targets).2 = .refused reason) ∧
        AppendedFor env eventType payload queue
          (fanOutLoop env eventType payload queue last targets).1 before) ∨
      (¬ FindsNoRoom env eventType payload queue before target ∧
        ∃ error, (fanOutLoop env eventType payload queue last targets).2 = .raised error) := by
  obtain ⟨next, next_, walked, moves⟩ := walk_accepted last before fails.accepted
  rw [fails.split, moves]
  cases prepared : prepareEvent env eventType payload target.1 target.2 with
  | raises error =>
    rw [fanOutLoop, prepared]
    refine .inr ⟨?_, error, rfl⟩
    rintro ⟨event, duty, -, -⟩
    rw [(dutyEvent_eq_some.1 duty).1] at prepared
    cases prepared
  | skipped =>
    refine absurd (goesThrough_snoc fails.accepted ?_ ?_) fails.fails
    · unfold Quiet
      rw [prepared]
      exact True.intro
    · intro event duty
      rw [(dutyEvent_eq_some.1 duty).1] at prepared
      cases prepared
  | ready event =>
    cases tier : event.tier with
    | telemetry =>
      refine absurd (goesThrough_snoc fails.accepted ?_ ?_) fails.fails
      · unfold Quiet
        rw [prepared]
        intro duty
        rw [tier] at duty
        cases duty
      · intro other duty
        obtain ⟨same, critical⟩ := dutyEvent_eq_some.1 duty
        rw [prepared] at same
        cases same
        rw [tier] at critical
        cases critical
    | dutyCritical => exact fanOutLoop_stops_duty fails walked prepared tier

theorem fanOutLoop_done (last : Option NonEmptyString)
    (through : GoesThrough env eventType payload queue targets) :
    ∃ next next_, Walked env eventType payload queue next last next_ targets ∧
      fanOutLoop env eventType payload queue last targets = (next, .done next_) := by
  obtain ⟨next, next_, walked, moves⟩ := walk_accepted last targets through
  have whole := moves []
  rw [List.append_nil] at whole
  exact ⟨next, next_, walked, whole⟩

theorem FillsUp.failsAt (fills : FillsUp env eventType payload queue targets) :
    ∃ before target after,
      FailsAt (GoesThrough env eventType payload queue) targets before target after ∧
        before.filterMap (dutyEvent env eventType payload) ≠ [] ∧
        FindsNoRoom env eventType payload queue before target := by
  obtain ⟨before, target, after, event, split, through, some_, duty, dumps, full⟩ := fills
  refine ⟨before, target, after, ⟨split, through, ?_⟩, some_, event, duty, dumps, full⟩
  intro more
  exact full more.room

/-! ## Records and rules -/

theorem isDuty_of_tier (tier : target.1.tier = .dutyCritical) : target.1.isDuty = true :=
  decide_eq_true tier

theorem carries_of_events {records : List OutboxRecord}
    (quiet : ∀ target ∈ targets, Quiet env eventType payload target)
    (unskipped : ∀ target ∈ targets, target.1.tier = .dutyCritical →
      prepareEvent env eventType payload target.1 target.2 ≠ .skipped)
    (events : records.map OutboxRecord.event = targets.filterMap (dutyEvent env eventType payload))
    : List.Forall₂ (Carries payload)
      ((targets.map Prod.fst).filter FanOutRule.isDuty) records := by
  induction targets generalizing records with
  | nil =>
    rw [List.filterMap_nil, List.map_eq_nil_iff] at events
    subst events
    exact .nil
  | cons target rest ih =>
    have quiet' := fun item listed => quiet item (List.mem_cons_of_mem _ listed)
    have unskipped' := fun item listed => unskipped item (List.mem_cons_of_mem _ listed)
    rw [List.map_cons]
    by_cases tier : target.1.tier = .dutyCritical
    · rw [List.filter_cons_of_pos (isDuty_of_tier tier)]
      have here := quiet target List.mem_cons_self
      unfold Quiet at here
      cases prepared : prepareEvent env eventType payload target.1 target.2 with
      | raises error =>
        rw [prepared] at here
        exact here.elim
      | skipped => exact absurd prepared (unskipped target List.mem_cons_self tier)
      | ready event =>
        obtain ⟨same, topic, -, carried⟩ := prepareEvent_ready prepared
        have duty := dutyEvent_eq_some.2 ⟨prepared, same.trans tier⟩
        rw [List.filterMap_cons_some duty] at events
        obtain ⟨record, others, split, own, rest_⟩ := List.map_eq_cons_iff.1 events
        subst split
        refine .cons ⟨?_, ?_⟩ (ih quiet' unskipped' rest_)
        · rw [own]
          exact topic
        · rw [own]
          exact carried
    · have notDuty : ¬ target.1.isDuty = true := fun isDuty => tier (of_decide_eq_true isDuty)
      rw [List.filter_cons_of_neg notDuty]
      refine ih quiet' unskipped' ?_
      rw [events, List.filterMap_cons_none]
      refine Option.eq_none_iff_forall_ne_some.2 ?_
      intro event duty
      obtain ⟨ready, critical⟩ := dutyEvent_eq_some.1 duty
      exact tier ((prepareEvent_ready ready).1.symm.trans critical)

theorem dutyEvent_length_le (env : EmitEnv) (eventType : NonEmptyString) (payload : PyDict)
    (targets : List Target) : (targets.filterMap (dutyEvent env eventType payload)).length ≤
      ((targets.map Prod.fst).filter FanOutRule.isDuty).length := by
  induction targets with
  | nil => exact Nat.le_refl _
  | cons target rest ih =>
    rw [List.map_cons]
    cases duty : dutyEvent env eventType payload target with
    | none =>
      rw [List.filterMap_cons_none duty]
      exact ih.trans ((List.sublist_cons_self ..).filter _).length_le
    | some event =>
      obtain ⟨ready, critical⟩ := dutyEvent_eq_some.1 duty
      have tier := (prepareEvent_ready ready).1.symm.trans critical
      rw [List.filterMap_cons_some duty, List.filter_cons_of_pos (isDuty_of_tier tier)]
      exact Nat.succ_le_succ ih

theorem dutyEvent_length_lt
    (skipped : ∃ target ∈ targets, target.1.tier = .dutyCritical ∧
      prepareEvent env eventType payload target.1 target.2 = .skipped) :
    (targets.filterMap (dutyEvent env eventType payload)).length <
      ((targets.map Prod.fst).filter FanOutRule.isDuty).length := by
  obtain ⟨target, listed, tier, skips⟩ := skipped
  obtain ⟨before, after, split⟩ := List.append_of_mem listed
  have none_ : dutyEvent env eventType payload target = none := by
    refine Option.eq_none_iff_forall_ne_some.2 ?_
    intro event duty
    rw [(dutyEvent_eq_some.1 duty).1] at skips
    cases skips
  subst split
  rw [List.filterMap_append, List.filterMap_cons_none none_, List.map_append, List.filter_append,
    List.map_cons, List.filter_cons_of_pos (isDuty_of_tier tier), List.length_append,
    List.length_append, List.length_cons]
  have early := dutyEvent_length_le env eventType payload before
  have late := dutyEvent_length_le env eventType payload after
  omega

end

/-! ## The request -/

section

variable {env : EmitEnv} {io : ℕ → RuleIO} {queue : BoundedEventQueue}
  {request : ModelDaemonEmitRequest} {registration : EventRegistration} {payload : PyDict}

theorem ruleTargets_rules (registration : EventRegistration) (io : ℕ → RuleIO) :
    (ruleTargets registration io).map Prod.fst = registration.fanOut := by
  unfold ruleTargets
  rw [List.map_map]
  exact List.zipIdx_map_fst 0 registration.fanOut

theorem handleEmit_done (checked : checkRequest env request = .ok (registration, payload))
    (through : GoesThrough env request.eventType payload queue (ruleTargets registration io)) :
    AcceptanceDurable env io queue request ↔
      ¬ SkipsDuty env request.eventType payload queue (ruleTargets registration io) := by
  obtain ⟨next, next_, walked, looped⟩ := fanOutLoop_done none through
  obtain ⟨records, pending, events⟩ := walked.appended
  unfold AcceptanceDurable handleEmit
  rw [checked]
  dsimp only
  rw [looped]
  cases next_ with
  | none =>
    have untaken : ¬ ∃ target ∈ ruleTargets registration io,
        Taken env request.eventType payload queue target := by
      intro taken
      exact Bool.false_ne_true (walked.taken.2 (.inr taken))
    have nothing :
        (ruleTargets registration io).filterMap (dutyEvent env request.eventType payload) = [] := by
      rw [List.filterMap_eq_nil_iff]
      intro target listed
      refine Option.eq_none_iff_forall_ne_some.2 ?_
      intro event duty
      obtain ⟨ready, critical⟩ := dutyEvent_eq_some.1 duty
      refine untaken ⟨target, listed, event, ready, ?_⟩
      intro telemetry
      rw [critical] at telemetry
      cases telemetry
    rw [nothing, List.map_eq_nil_iff] at events
    refine iff_of_true ?_ ?_
    · show next.outbox.pending = queue.outbox.pending
      rw [pending, events, List.append_nil]
    · intro skips
      exact untaken skips.taken
  | some eventId =>
    have taken := (walked.taken.1 rfl).resolve_left Bool.false_ne_true
    constructor
    · rintro ⟨_, _, appended, same, split, carries⟩ skips
      cases same
      rw [pending] at split
      have whole := List.append_cancel_left split
      subst whole
      have fewer := dutyEvent_length_lt skips.skipped
      rw [ruleTargets_rules, ← events, List.length_map] at fewer
      exact absurd carries.length_eq (Nat.ne_of_gt fewer)
    · intro unskipped
      refine ⟨registration, payload, records, rfl, pending, ?_⟩
      unfold dutyRules
      rw [← ruleTargets_rules registration io]
      refine carries_of_events through.quiet ?_ events
      intro target listed duty skipped
      exact unskipped ⟨through, ⟨target, listed, duty, skipped⟩, taken⟩

theorem handleEmit_stopped (checked : checkRequest env request = .ok (registration, payload))
    {target : Target} (fails : FailsAt (GoesThrough env request.eventType payload queue)
      (ruleTargets registration io) before target after) :
    AcceptanceDurable env io queue request ↔
      ¬ FillsUp env request.eventType payload queue (ruleTargets registration io) := by
  unfold AcceptanceDurable handleEmit
  rw [checked]
  dsimp only
  rcases fanOutLoop_stops none fails with
    ⟨noRoom, ⟨reason, refused⟩, records, pending, events⟩ | ⟨room, error, raised⟩
  · rw [refused]
    show (fanOutLoop env request.eventType payload queue none _).1.outbox.pending =
      queue.outbox.pending ↔ _
    rw [pending, List.append_right_eq_self]
    constructor
    · intro nothing fills
      obtain ⟨_, _, _, other, some_, -⟩ := fills.failsAt
      rw [← (fails.unique goesThrough_closed other).1, ← events, nothing] at some_
      exact some_ rfl
    · intro notFull
      by_contra some_
      obtain ⟨event, duty, dumps, full⟩ := noRoom
      refine notFull ⟨before, target, after, event, fails.split, fails.accepted, ?_, duty, dumps,
        full⟩
      rw [← events]
      exact mt List.map_eq_nil_iff.1 some_
  · rw [raised]
    refine iff_of_true True.intro ?_
    intro fills
    obtain ⟨_, _, _, other, -, noRoom⟩ := fills.failsAt
    obtain ⟨sameBefore, sameTarget⟩ := fails.unique goesThrough_closed other
    rw [← sameBefore, ← sameTarget] at noRoom
    exact room noRoom

end

/-- Acceptance is durable exactly when the fan-out does not skip a duty-critical rule beside an
event that it takes, and the outbox does not fill up after the first duty-critical event. -/
theorem acceptance_durable_iff (env : EmitEnv) (io : ℕ → RuleIO) (queue : BoundedEventQueue)
    (request : ModelDaemonEmitRequest) :
    AcceptanceDurable env io queue request ↔
      ∀ registration payload, checkRequest env request = .ok (registration, payload) →
        ¬ SkipsDuty env request.eventType payload queue (ruleTargets registration io) ∧
          ¬ FillsUp env request.eventType payload queue (ruleTargets registration io) := by
  cases checked : checkRequest env request with
  | error reason =>
    refine iff_of_true ?_ ?_
    · unfold AcceptanceDurable handleEmit
      rw [checked]
    · rintro registration payload ⟨⟩
  | ok found =>
    obtain ⟨registration, payload⟩ := found
    have single : (∀ registration' payload', Except.ok (ε := String) (registration, payload) =
          .ok (registration', payload') →
        ¬ SkipsDuty env request.eventType payload' queue (ruleTargets registration' io) ∧
          ¬ FillsUp env request.eventType payload' queue (ruleTargets registration' io)) ↔
        ¬ SkipsDuty env request.eventType payload queue (ruleTargets registration io) ∧
          ¬ FillsUp env request.eventType payload queue (ruleTargets registration io) := by
      constructor
      · intro all
        exact all registration payload rfl
      · rintro held _ _ ⟨⟩
        exact held
    rw [single]
    rcases accepts_or_fails goesThrough_nil (ruleTargets registration io) with
      through | ⟨before, target, after, fails⟩
    · rw [handleEmit_done checked through]
      refine (and_iff_left ?_).symm
      intro fills
      obtain ⟨_, _, _, fails, -⟩ := fills.failsAt
      exact fails.not_accepted goesThrough_closed through
    · rw [handleEmit_stopped checked fails]
      refine (and_iff_right ?_).symm
      intro skips
      exact fails.not_accepted goesThrough_closed skips.through

/-! ## Two requests -/

/-- The JSON text of texts and `None` without characters to escape. -/
def plainJson (entries : PyDict) : String :=
  "\x7b" ++ ", ".intercalate (entries.map fun entry =>
    "\"" ++ entry.1 ++ "\": " ++ match entry.2 with
      | .str text => "\"" ++ text ++ "\""
      | _ => "null") ++ "\x7d"

/-- A codec for events whose payload is not read back. -/
def plainCodec : EventCodec where
  dumpJson event := some event.topic.value
  validateJson _ := none

/-- Both rules of `session.outcome` are duty-critical. -/
def sessionOutcome : EventRegistration where
  eventType := "session.outcome"
  fanOut :=
    [{ topic := "onex.cmd.omniintelligence.session-outcome.v1", tier := .dutyCritical },
     { topic := "onex.evt.omniclaude.session-outcome.v1", tier := .dutyCritical }]
  partitionKeyField := some "session_id"
  requiredFields := ["session_id", "outcome"]

/-- A command with its whole payload beside a telemetry event without the body. -/
def bodyBroadcast : EventRegistration where
  eventType := "body.broadcast"
  fanOut :=
    [{ topic := "onex.cmd.omniclaude.body-broadcast.v1", tier := .dutyCritical },
     { topic := "onex.evt.omniclaude.body-broadcast.v1", tier := .telemetry,
       transform := some fun _ => some [] }]

def sampleEnv (maxPayloadBytes : ℤ) : EmitEnv where
  maxPayloadBytes := maxPayloadBytes
  registry :=
    (OrderedDict.empty.set "session.outcome" sessionOutcome).set "body.broadcast" bodyBroadcast
  codec := plainCodec
  unicode := PyText.asciiTable
  jsonDumps entries := some (plainJson entries)
  str _ := ""
  freshCorrelationId := "c-1"
  emittedAt := "2026-01-01T00:00:00+00:00"
  sessionIdVariable := ""
  isUuid _ := true
  hashedUuid text := text

def sampleIO (index : ℕ) : RuleIO where
  eventId := NonEmptyString.append ⟨"event-", by decide⟩ (toString index)
  queuedAt := 0
  disk := { now := 0 }

def sampleQueue : BoundedEventQueue where
  limits := {}
  memoryQueue := []
  spoolFiles := []
  spoolBytes := 0
  spoolDirectory := .empty
  outbox := ⟨⟨5, 50, smallOutbox_messages, smallOutbox_bytes⟩, [], 0, .empty⟩
  inFlightOutbox := .empty

def outcomeRequest : ModelDaemonEmitRequest where
  eventType := ⟨"session.outcome", by decide⟩
  payload := .dict [("session_id", .str "s-1"), ("outcome", .str "success")]

def bodyRequest : ModelDaemonEmitRequest where
  eventType := ⟨"body.broadcast", by decide⟩
  payload := .dict [("body", .str "a text that is longer than the limit")]

/-- Whether the handler answers `queued`; `none` when it raises. -/
def answersQueued : Except EmitError EmitReply → Option Bool
  | .error _ => none
  | .ok (.error _) => some false
  | .ok (.queued _) => some true

def dutyCount (env : EmitEnv) (request : ModelDaemonEmitRequest) : Option ℕ :=
  (checkRequest env request).toOption.map fun found => (dutyRules found.1).length

section

variable {env : EmitEnv} {io : ℕ → RuleIO} {queue : BoundedEventQueue}
  {request : ModelDaemonEmitRequest}

theorem not_durable_of_refused
    (answer : answersQueued (handleEmit env io queue request).2 = some false)
    (grown : (handleEmit env io queue request).1.outbox.pending.length ≠
      queue.outbox.pending.length) : ¬ AcceptanceDurable env io queue request := by
  intro durable
  unfold AcceptanceDurable at durable
  cases replied : (handleEmit env io queue request).2 with
  | error raised =>
    rw [replied] at answer
    cases answer
  | ok reply =>
    cases reply with
    | error reason =>
      dsimp only at durable
      rw [replied] at durable
      exact grown (congrArg List.length durable)
    | queued eventId =>
      rw [replied] at answer
      cases answer

theorem not_durable_of_accepted {count : ℕ}
    (answer : answersQueued (handleEmit env io queue request).2 = some true)
    (duty : dutyCount env request = some count)
    (missing : (handleEmit env io queue request).1.outbox.pending.length ≠
      queue.outbox.pending.length + count) : ¬ AcceptanceDurable env io queue request := by
  intro durable
  unfold AcceptanceDurable at durable
  cases replied : (handleEmit env io queue request).2 with
  | error raised =>
    rw [replied] at answer
    cases answer
  | ok reply =>
    cases reply with
    | error reason =>
      rw [replied] at answer
      cases answer
    | queued eventId =>
      dsimp only at durable
      rw [replied] at durable
      obtain ⟨registration, payload, appended, checked, pending, carries⟩ := durable
      unfold dutyCount at duty
      rw [checked] at duty
      have counted : appended.length = count :=
        carries.length_eq.symm.trans (Option.some.inj duty)
      refine missing ?_
      rw [pending, List.length_append, counted]

end

/-- A session outcome is refused after its command was appended, and a broadcast is accepted
without its command. -/
theorem acceptance_not_durable :
    (answersQueued (handleEmit (sampleEnv 1048576) sampleIO sampleQueue outcomeRequest).2 =
          some false ∧
        ¬ AcceptanceDurable (sampleEnv 1048576) sampleIO sampleQueue outcomeRequest) ∧
      answersQueued (handleEmit (sampleEnv 20) sampleIO sampleQueue bodyRequest).2 = some true ∧
        ¬ AcceptanceDurable (sampleEnv 20) sampleIO sampleQueue bodyRequest := by
  have refused : answersQueued
      (handleEmit (sampleEnv 1048576) sampleIO sampleQueue outcomeRequest).2 = some false := by
    decide +kernel
  have accepted : answersQueued
      (handleEmit (sampleEnv 20) sampleIO sampleQueue bodyRequest).2 = some true := by
    decide +kernel
  have duty : dutyCount (sampleEnv 20) bodyRequest = some 1 := by decide +kernel
  exact ⟨⟨refused, not_durable_of_refused refused (by decide +kernel)⟩, accepted,
    not_durable_of_accepted accepted duty (by decide +kernel)⟩

end OmniMarket.EmitDaemon
