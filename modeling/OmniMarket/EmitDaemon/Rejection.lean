import OmniMarket.EmitDaemon.Queue

/-!
# What a telemetry event costs the backlog

`_spool_event` makes room before it knows whether the event is taken: the loop that drops the
oldest spooled events runs before the size test, the `mkdir` and the write.
-/

namespace OmniMarket.EmitDaemon.BoundedEventQueue

/-! ## Dropping files -/

/-- What dropping a file takes off the counter, and the directory that it leaves. -/
def discard (io : DiskIO) (directory : Directory) (file : FileName) : ℕ × Directory :=
  match stat io directory file, unlink io directory file with
  | some fileSize, some left => (fileSize, left)
  | _, _ => (0, directory)

def discardAll (io : DiskIO) (directory : Directory) : List FileName → ℕ × Directory
  | [] => (0, directory)
  | file :: rest =>
    let first := discard io directory file
    let later := discardAll io first.2 rest
    (first.1 + later.1, later.2)

/-- The queue without its `count` oldest spooled files. -/
def evicted (io : DiskIO) (queue : BoundedEventQueue) (count : ℕ) : BoundedEventQueue :=
  let discarded := discardAll io queue.spoolDirectory (queue.spoolFiles.take count)
  { queue with
    spoolFiles := queue.spoolFiles.drop count
    spoolBytes := queue.spoolBytes - discarded.1
    spoolDirectory := discarded.2 }

/-- By the counter, the spool has no room for the event when `count` files are dropped. -/
def Full (io : DiskIO) (queue : BoundedEventQueue) (eventBytes count : ℕ) : Prop :=
  queue.limits.maxSpoolMessages ≤ (queue.spoolFiles.length - count : ℕ) ∨
    queue.limits.maxSpoolBytes <
      ((queue.evicted io count).spoolBytes + eventBytes : ℕ)

/-- The loop drops `count` files. -/
structure Evicts (io : DiskIO) (queue : BoundedEventQueue) (eventBytes count : ℕ) : Prop where
  listed : count ≤ queue.spoolFiles.length
  full : ∀ fewer < count, Full io queue eventBytes fewer
  enough : count = queue.spoolFiles.length ∨ ¬ Full io queue eventBytes count

/-- A drop that reaches the end of its `try` block removes the file. -/
def Removes (io : DiskIO) (directory : Directory) (file : FileName) : Prop :=
  (stat io directory file).isSome = true ∧ io.unlinkRaises file = false

section

variable {io : DiskIO} {queue : BoundedEventQueue} {eventBytes count : ℕ}
  {directory : Directory} {file first : FileName}

theorem discard_removes (removes : Removes io directory file) :
    (discard io directory file).2 = directory.erase file := by
  obtain ⟨known, unlinked⟩ := removes
  obtain ⟨fileSize, stated⟩ := Option.isSome_iff_exists.1 known
  simp [discard, stated, unlink, unlinked]

theorem discard_keeps (keeps : ¬ Removes io directory file) :
    discard io directory file = (0, directory) := by
  unfold discard
  cases stated : stat io directory file with
  | none => rfl
  | some fileSize =>
    have raises : io.unlinkRaises file = true := by
      refine Bool.eq_true_of_not_eq_false ?_
      intro unlinked
      exact keeps ⟨by rw [stated]; rfl, unlinked⟩
    simp [unlink, raises]

theorem not_removes_of_absent (absent : directory.get? file = none) :
    ¬ Removes io directory file := by
  rintro ⟨known, -⟩
  simp [stat, absent] at known

theorem removes_congr {next : Directory} (same : next.get? file = directory.get? file) :
    Removes io next file ↔ Removes io directory file := by
  unfold Removes stat
  rw [same]

theorem discard_other (differs : file ≠ first) :
    (discard io directory first).2.get? file = directory.get? file := by
  by_cases removes : Removes io directory first
  · rw [discard_removes removes]
    exact OrderedDict.get?_erase_other differs
  · rw [discard_keeps removes]

theorem discardAll_absent (files : List FileName) (absent : directory.get? file = none) :
    (discardAll io directory files).2.get? file = none := by
  induction files generalizing directory with
  | nil => exact absent
  | cons first rest ih =>
    refine ih ?_
    by_cases same : file = first
    · subst same
      rw [discard_keeps (not_removes_of_absent absent)]
      exact absent
    · rw [discard_other same]
      exact absent

theorem discardAll_removed {files : List FileName} (listed : file ∈ files)
    (removes : Removes io directory file) : (discardAll io directory files).2.get? file = none := by
  induction files generalizing directory with
  | nil => cases listed
  | cons first rest ih =>
    show (discardAll io (discard io directory first).2 rest).2.get? file = none
    by_cases same : file = first
    · subst same
      refine discardAll_absent rest ?_
      rw [discard_removes removes]
      exact OrderedDict.get?_erase_self ..
    · refine ih ((List.mem_cons.1 listed).resolve_left same) ?_
      exact (removes_congr (discard_other same)).2 removes

theorem discardAll_kept {files : List FileName}
    (kept : file ∈ files → ¬ Removes io directory file) :
    (discardAll io directory files).2.get? file = directory.get? file := by
  induction files generalizing directory with
  | nil => rfl
  | cons first rest ih =>
    have held : (discard io directory first).2.get? file = directory.get? file := by
      by_cases same : file = first
      · subst same
        rw [discard_keeps (kept List.mem_cons_self)]
      · exact discard_other same
    refine (ih ?_).trans held
    intro later removes
    exact kept (List.mem_cons_of_mem _ later) ((removes_congr held).1 removes)

theorem dropOldestSpool_eq (io : DiskIO) (queue : BoundedEventQueue) (oldest : FileName)
    (rest : List FileName) :
    dropOldestSpool io queue oldest rest =
      { queue with
        spoolFiles := rest
        spoolBytes := queue.spoolBytes - (discard io queue.spoolDirectory oldest).1
        spoolDirectory := (discard io queue.spoolDirectory oldest).2 } := by
  unfold dropOldestSpool discard
  cases stat io queue.spoolDirectory oldest with
  | none => rfl
  | some fileSize => cases unlink io queue.spoolDirectory oldest <;> rfl

theorem full_after_drop {oldest : FileName} {rest : List FileName}
    (files : queue.spoolFiles = oldest :: rest) :
    Full io (dropOldestSpool io queue oldest rest) eventBytes count ↔
      Full io queue eventBytes (count + 1) := by
  unfold Full evicted
  rw [dropOldestSpool_eq, files, List.take_succ_cons]
  dsimp only
  rw [discardAll, List.length_cons, Nat.add_sub_add_right, Nat.sub_sub]

theorem makeRoom_evicts (io : DiskIO) (eventBytes : ℕ) (queue : BoundedEventQueue) :
    ∃ count, Evicts io queue eventBytes count ∧
      makeRoom io eventBytes queue queue.spoolFiles = queue.evicted io count := by
  obtain ⟨files, listed⟩ : ∃ files, files = queue.spoolFiles := ⟨_, rfl⟩
  rw [← listed]
  induction files generalizing queue with
  | nil =>
    refine ⟨0, ⟨Nat.zero_le _, fun _ before => absurd before (Nat.not_lt_zero _), .inl ?_⟩, rfl⟩
    rw [← listed, List.length_nil]
  | cons oldest rest ih =>
    rw [makeRoom]
    have fullNow : Full io queue eventBytes 0 ↔
        queue.limits.maxSpoolMessages ≤ (rest.length + 1 : ℕ) ∨
          queue.limits.maxSpoolBytes < (queue.spoolBytes + eventBytes : ℕ) := by
      unfold Full
      rw [← listed]
      rfl
    split
    · next full =>
      obtain ⟨count, ⟨within, dropped, enough⟩, made⟩ :=
        ih (dropOldestSpool io queue oldest rest) (by rw [dropOldestSpool_eq])
      rw [full_after_drop listed.symm] at enough
      rw [dropOldestSpool_eq] at within enough
      refine ⟨count + 1, ⟨?_, ?_, ?_⟩, ?_⟩
      · rw [← listed]
        exact Nat.succ_le_succ within
      · intro fewer before
        cases fewer with
        | zero => exact fullNow.2 full
        | succ fewer =>
          exact (full_after_drop listed.symm).1
            (dropped fewer (Nat.lt_of_succ_lt_succ before))
      · refine enough.imp_left ?_
        rintro rfl
        rw [← listed, List.length_cons]
      · rw [made, dropOldestSpool_eq]
        unfold evicted
        rw [← listed, List.take_succ_cons, List.drop_succ_cons]
        dsimp only
        rw [discardAll, Nat.sub_sub]
    · next room =>
      refine ⟨0, ⟨Nat.zero_le _, fun _ before => absurd before (Nat.not_lt_zero _), .inr ?_⟩, ?_⟩
      · rw [fullNow]
        exact room
      · show queue = queue.evicted io 0
        rfl

theorem Evicts.unique {other : ℕ} (evicts : Evicts io queue eventBytes count)
    (also : Evicts io queue eventBytes other) : count = other := by
  refine Nat.le_antisymm ?_ ?_
  · refine Nat.le_of_not_lt ?_
    intro fewer
    refine also.enough.elim ?_ (fun room => room (evicts.full other fewer))
    rintro rfl
    exact absurd evicts.listed (Nat.not_le.2 fewer)
  · refine Nat.le_of_not_lt ?_
    intro fewer
    refine evicts.enough.elim ?_ (fun room => room (also.full count fewer))
    rintro rfl
    exact absurd also.listed (Nat.not_le.2 fewer)

end

/-! ## The law -/

def spooled (queue : BoundedEventQueue) : List (FileName × Option String) :=
  queue.spoolFiles.map fun file => (file, queue.spoolDirectory.get? file)

def fileSize (directory : Directory) (file : FileName) : ℕ :=
  ((directory.get? file).map encodedSize).getD 0

/-- By the sizes of the files themselves, the event does not fit the limits when `count` of the
oldest events are gone. -/
def Overfull (queue : BoundedEventQueue) (eventBytes count : ℕ) : Prop :=
  queue.limits.maxSpoolMessages < (queue.spoolFiles.length - count + 1 : ℕ) ∨
    queue.limits.maxSpoolBytes <
      (((queue.spoolFiles.drop count).map (fileSize queue.spoolDirectory)).sum + eventBytes : ℕ)

def spoolFile (io : DiskIO) (event : ModelQueuedEvent) : FileName :=
  ⟨io.now, event.eventId.value⟩

inductive Gained (codec : EventCodec) (io : DiskIO) (queue next : BoundedEventQueue)
    (event : ModelQueuedEvent) : Prop where
  | inMemory (memoryQueue : next.memoryQueue = queue.memoryQueue ++ [event])
      (spooled : next.spooled = queue.spooled)
  | onDisk (memoryQueue : next.memoryQueue = queue.memoryQueue) (text : String) (count : ℕ)
      (dumped : codec.dumpJson event = some text)
      (spooled : next.spooled = queue.spooled.drop count ++ [(spoolFile io event, some text)])
      (listed : count ≤ queue.spoolFiles.length)
      (needed : ∀ fewer < count, Overfull queue (encodedSize text) fewer)

structure KeepsBacklog (codec : EventCodec) (io : DiskIO) (queue : BoundedEventQueue)
    (event : ModelQueuedEvent) : Prop where
  rejected : (queue.enqueue codec io event).2 = .ok false →
    (queue.enqueue codec io event).1.memoryQueue = queue.memoryQueue ∧
      (queue.enqueue codec io event).1.spooled = queue.spooled
  accepted : (queue.enqueue codec io event).2 = .ok true →
    Gained codec io queue (queue.enqueue codec io event).1 event

/-! ## When it holds -/

structure GoesToSpool (codec : EventCodec) (queue : BoundedEventQueue) (event : ModelQueuedEvent)
    (text : String) : Prop where
  memoryFull : queue.limits.maxMemoryQueue ≤ (queue.memoryQueue.length : ℕ)
  enabled : spoolingDisabled queue.limits = false
  dumped : codec.dumpJson event = some text

/-- The text is small enough, and the disk takes it. -/
structure Writable (io : DiskIO) (limits : QueueLimits) (text : String) : Prop where
  size : (encodedSize text : ℤ) ≤ limits.maxSpoolBytes
  mkdir : io.mkdirRaises = false
  write : io.write = .written

instance (io : DiskIO) (limits : QueueLimits) (text : String) :
    Decidable (Writable io limits text) :=
  decidable_of_iff
    ((encodedSize text : ℤ) ≤ limits.maxSpoolBytes ∧ io.mkdirRaises = false ∧ io.write = .written)
    ⟨fun ⟨size, mkdir, write⟩ => ⟨size, mkdir, write⟩,
      fun ⟨size, mkdir, write⟩ => ⟨size, mkdir, write⟩⟩

structure Spared (io : DiskIO) (queue : BoundedEventQueue) (count : ℕ) (written file : FileName)
    (text : String) : Prop where
  dropped : file ≠ written → file ∈ queue.spoolFiles.take count →
    ¬ Removes io queue.spoolDirectory file
  overwritten : file = written → queue.spoolDirectory.get? file = some text

structure DropsNeeded (io : DiskIO) (queue : BoundedEventQueue) (event : ModelQueuedEvent)
    (text : String) (count : ℕ) : Prop where
  needed : ∀ fewer < count, Overfull queue (encodedSize text) fewer
  spared : ∀ file ∈ queue.spoolFiles.drop count,
    Spared io queue count (spoolFile io event) file text

structure DropsNothing (io : DiskIO) (queue : BoundedEventQueue) (event : ModelQueuedEvent)
    (text : String) (count : ℕ) : Prop where
  nothing : count = 0
  unwritten : (encodedSize text : ℤ) ≤ queue.limits.maxSpoolBytes → io.mkdirRaises = false →
    ∀ left, io.write = .raised (some left) → spoolFile io event ∈ queue.spoolFiles →
      queue.spoolDirectory.get? (spoolFile io event) = some (String.ofList (text.toList.take left))

/-- The files that the loop drops for an event that goes to the spool are those that had to go
when it can be written, and there are none when it cannot. -/
def EvictsInTime (codec : EventCodec) (io : DiskIO) (queue : BoundedEventQueue)
    (event : ModelQueuedEvent) : Prop :=
  ∀ text count, GoesToSpool codec queue event text →
    Evicts io queue (encodedSize text) count →
    if Writable io queue.limits text then DropsNeeded io queue event text count
    else DropsNothing io queue event text count

/-! ## The step -/

section

variable {codec : EventCodec} {io : DiskIO} {queue : BoundedEventQueue}
  {event : ModelQueuedEvent} {text : String} {count : ℕ}

def refusedDirectory (io : DiskIO) (queue : BoundedEventQueue) (event : ModelQueuedEvent)
    (text : String) (count : ℕ) : Directory :=
  let left := (queue.evicted io count).spoolDirectory
  if queue.limits.maxSpoolBytes < (encodedSize text : ℕ) ∨ io.mkdirRaises = true then left
  else writeText left (spoolFile io event) text io.write

theorem spoolEvent_eq (enabled : spoolingDisabled queue.limits = false)
    (dumped : codec.dumpJson event = some text)
    (evicts : Evicts io queue (encodedSize text) count) :
    spoolEvent codec io queue event =
      if Writable io queue.limits text then
        ({ queue.evicted io count with
            spoolFiles := queue.spoolFiles.drop count ++ [spoolFile io event]
            spoolBytes := (queue.evicted io count).spoolBytes + encodedSize text
            spoolDirectory :=
              (queue.evicted io count).spoolDirectory.set (spoolFile io event) text }, true)
      else
        ({ queue.evicted io count with
            spoolDirectory := refusedDirectory io queue event text count }, false) := by
  obtain ⟨other, also, room⟩ := makeRoom_evicts io (encodedSize text) queue
  obtain rfl := also.unique evicts
  unfold spoolEvent refusedDirectory
  rw [enabled, dumped]
  dsimp only
  rw [if_neg Bool.false_ne_true, room]
  by_cases large : queue.limits.maxSpoolBytes < (encodedSize text : ℕ)
  · have unwritable : ¬ Writable io queue.limits text := fun writable =>
      absurd writable.size (Int.not_le.2 large)
    rw [if_pos (show (queue.evicted io other).limits.maxSpoolBytes < _ from large),
      if_neg unwritable, if_pos (.inl large)]
  · rw [if_neg (show ¬ (queue.evicted io other).limits.maxSpoolBytes < _ from large)]
    cases mkdir : io.mkdirRaises with
    | true =>
      have unwritable : ¬ Writable io queue.limits text := fun writable =>
        absurd (mkdir.symm.trans writable.mkdir) Bool.true_eq_false_eq_False
      rw [if_pos rfl, if_neg unwritable, if_pos (.inr rfl)]
    | false =>
      have reached : ¬ (queue.limits.maxSpoolBytes < (encodedSize text : ℕ) ∨ false = true) :=
        not_or.2 ⟨large, Bool.false_ne_true⟩
      rw [if_neg Bool.false_ne_true, if_neg reached]
      cases write : io.write with
      | written =>
        rw [if_pos ⟨Int.not_lt.1 large, mkdir, write⟩]
        rfl
      | raised left =>
        have unwritable : ¬ Writable io queue.limits text := fun writable =>
          WriteResult.noConfusion (write.symm.trans writable.write)
        rw [if_neg unwritable]
        rfl

theorem enqueue_goes (telemetry : event.tier = .telemetry)
    (goes : GoesToSpool codec queue event text) :
    queue.enqueue codec io event =
      ((spoolEvent codec io queue event).1, .ok (spoolEvent codec io queue event).2) := by
  unfold enqueue
  rw [telemetry]
  dsimp only
  rw [if_neg (Int.not_lt.2 goes.memoryFull), goes.enabled, if_neg Bool.false_ne_true]

theorem keeps_elsewhere (telemetry : event.tier = .telemetry)
    (elsewhere : ∀ text, ¬ GoesToSpool codec queue event text) :
    KeepsBacklog codec io queue event := by
  by_cases room : (queue.memoryQueue.length : ℤ) < queue.limits.maxMemoryQueue
  · have entered : queue.enqueue codec io event =
        ({ queue with memoryQueue := queue.memoryQueue ++ [event] }, .ok true) := by
      unfold enqueue
      rw [telemetry]
      exact if_pos room
    refine ⟨?_, ?_⟩
    · rw [entered]
      nofun
    · intro _
      rw [entered]
      exact .inMemory rfl rfl
  · have refused : queue.enqueue codec io event = (queue, .ok false) := by
      unfold enqueue
      rw [telemetry]
      dsimp only
      rw [if_neg room]
      cases enabled : spoolingDisabled queue.limits with
      | true => rfl
      | false =>
        have unserializable : codec.dumpJson event = none := by
          refine Option.eq_none_iff_forall_ne_some.2 ?_
          intro text dumped
          exact elsewhere text ⟨Int.not_lt.1 room, enabled, dumped⟩
        unfold spoolEvent
        rw [enabled, unserializable]
        rfl
    refine ⟨?_, ?_⟩
    · intro _
      rw [refused]
      exact ⟨rfl, rfl⟩
    · rw [refused]
      nofun

theorem spooled_eq_of_files {next : BoundedEventQueue}
    (files : next.spoolFiles = queue.spoolFiles) :
    next.spooled = queue.spooled ↔ ∀ file ∈ queue.spoolFiles,
      next.spoolDirectory.get? file = queue.spoolDirectory.get? file := by
  unfold spooled
  rw [files, List.map_inj_left]
  simp only [Prod.mk.injEq, true_and]

theorem spared_iff {file : FileName} :
    Spared io queue count (spoolFile io event) file text ↔
      ((queue.evicted io count).spoolDirectory.set (spoolFile io event) text).get? file =
        queue.spoolDirectory.get? file := by
  by_cases own : file = spoolFile io event
  · subst own
    rw [OrderedDict.get?_set_self]
    constructor
    · intro spared
      exact (spared.overwritten rfl).symm
    · intro same
      exact ⟨fun other => absurd rfl other, fun _ => same.symm⟩
  · rw [OrderedDict.get?_set_other own]
    constructor
    · intro spared
      exact discardAll_kept (spared.dropped own)
    · intro same
      refine ⟨fun _ dropped removes => ?_, fun overwritten => absurd overwritten own⟩
      exact not_removes_of_absent (same.symm.trans (discardAll_removed dropped removes)) removes

theorem gained_iff (goes : GoesToSpool codec queue event text)
    (evicts : Evicts io queue (encodedSize text) count) :
    Gained codec io queue
        { queue.evicted io count with
          spoolFiles := queue.spoolFiles.drop count ++ [spoolFile io event]
          spoolBytes := (queue.evicted io count).spoolBytes + encodedSize text
          spoolDirectory :=
            (queue.evicted io count).spoolDirectory.set (spoolFile io event) text } event ↔
      DropsNeeded io queue event text count := by
  have ends : ∀ kept : List (FileName × Option String),
      (queue.spoolFiles.drop count ++ [spoolFile io event]).map (fun file => (file,
          ((queue.evicted io count).spoolDirectory.set (spoolFile io event) text).get? file)) =
        kept ++ [(spoolFile io event, some text)] ↔
      (queue.spoolFiles.drop count).map (fun file => (file,
        ((queue.evicted io count).spoolDirectory.set (spoolFile io event) text).get? file)) =
          kept := by
    intro kept
    rw [List.map_append, List.map_singleton, OrderedDict.get?_set_self, List.append_left_inj]
  constructor
  · intro gained
    cases gained with
    | inMemory memoryQueue _ =>
      have longer := congrArg List.length memoryQueue
      rw [List.length_append, List.length_singleton] at longer
      exact absurd (show queue.memoryQueue.length = _ from longer)
        (Nat.ne_of_lt (Nat.lt_succ_self _))
    | onDisk _ other lost dumped stays listed needed =>
      obtain rfl : text = other := Option.some.inj (goes.dumped.symm.trans dumped)
      have kept := (ends _).1 stays
      have lengths := congrArg List.length kept
      rw [List.length_map, List.length_drop, List.length_drop, spooled, List.length_map]
        at lengths
      obtain rfl : lost = count := by
        have within := evicts.listed
        omega
      rw [spooled, ← List.map_drop, List.map_inj_left] at kept
      refine ⟨needed, ?_⟩
      intro file stays
      exact spared_iff.2 (Prod.mk.inj (kept file stays)).2
  · rintro ⟨needed, spared⟩
    refine .onDisk rfl text count goes.dumped ((ends _).2 ?_) evicts.listed needed
    rw [spooled, ← List.map_drop, List.map_inj_left]
    intro file stays
    rw [spared_iff.1 (spared file stays)]

theorem refused_iff (unwritable : ¬ Writable io queue.limits text)
    (evicts : Evicts io queue (encodedSize text) count) :
    ({ queue.evicted io count with
        spoolDirectory := refusedDirectory io queue event text count } :
          BoundedEventQueue).spooled = queue.spooled ↔
      DropsNothing io queue event text count := by
  cases count with
  | succ count =>
    constructor
    · intro same
      have lengths := congrArg List.length same
      rw [spooled, spooled, List.length_map, List.length_map] at lengths
      have shorter : (queue.spoolFiles.drop (count + 1)).length = queue.spoolFiles.length :=
        lengths
      rw [List.length_drop] at shorter
      have within := evicts.listed
      omega
    · intro drops
      exact absurd drops.nothing (Nat.succ_ne_zero count)
  | zero =>
    refine (spooled_eq_of_files (by rfl)).trans ?_
    show (∀ file ∈ queue.spoolFiles, (refusedDirectory io queue event text 0).get? file =
      queue.spoolDirectory.get? file) ↔ _
    have before : (queue.evicted io 0).spoolDirectory = queue.spoolDirectory := rfl
    unfold refusedDirectory
    rw [before]
    dsimp only
    by_cases unreached :
        queue.limits.maxSpoolBytes < (encodedSize text : ℕ) ∨ io.mkdirRaises = true
    · rw [if_pos unreached]
      refine iff_of_true (fun _ _ => rfl) ⟨rfl, ?_⟩
      intro small mkdir
      rcases unreached with large | raises
      · exact absurd small (Int.not_le.2 large)
      · exact absurd (mkdir.symm.trans raises) Bool.false_ne_true
    · rw [if_neg unreached]
      obtain ⟨small, mkdir⟩ := not_or.1 unreached
      replace small := Int.not_lt.1 small
      replace mkdir := Bool.eq_false_of_not_eq_true mkdir
      constructor
      · intro same
        refine ⟨rfl, ?_⟩
        intro _ _ left write listed
        rw [← same _ listed, write]
        exact OrderedDict.get?_set_self ..
      · rintro ⟨-, unwritten⟩ file listed
        cases write : io.write with
        | written => exact absurd ⟨small, mkdir, write⟩ unwritable
        | raised left =>
          cases left with
          | none => rfl
          | some left =>
            show (queue.spoolDirectory.set _ _).get? file = _
            by_cases own : file = spoolFile io event
            · subst own
              rw [OrderedDict.get?_set_self]
              exact (unwritten small mkdir left write listed).symm
            · exact OrderedDict.get?_set_other own

/-- When a rejection is a no-op on the backlog, and an acceptance costs only what it has to. -/
theorem keeps_backlog_iff (codec : EventCodec) (io : DiskIO) (queue : BoundedEventQueue)
    {event : ModelQueuedEvent} (telemetry : event.tier = .telemetry) :
    KeepsBacklog codec io queue event ↔ EvictsInTime codec io queue event := by
  by_cases spools : ∃ text, GoesToSpool codec queue event text
  · obtain ⟨text, goes⟩ := spools
    obtain ⟨count, evicts, -⟩ := makeRoom_evicts io (encodedSize text) queue
    have only : EvictsInTime codec io queue event ↔
        if Writable io queue.limits text then DropsNeeded io queue event text count
        else DropsNothing io queue event text count := by
      constructor
      · intro inTime
        exact inTime text count goes evicts
      · intro drops other count' goes' evicts'
        obtain rfl : text = other := Option.some.inj (goes.dumped.symm.trans goes'.dumped)
        obtain rfl := evicts.unique evicts'
        exact drops
    rw [only]
    have step := (@enqueue_goes codec io queue event text telemetry goes).trans
      (congrArg (fun spooled : BoundedEventQueue × Bool => (spooled.1, Except.ok spooled.2))
        (spoolEvent_eq goes.enabled goes.dumped evicts))
    by_cases writable : Writable io queue.limits text
    · rw [if_pos writable] at step ⊢
      rw [← gained_iff goes evicts]
      constructor
      · intro keeps
        have gained := keeps.accepted (by rw [step])
        rw [step] at gained
        exact gained
      · intro gained
        refine ⟨?_, ?_⟩
        · rw [step]
          nofun
        · intro _
          rw [step]
          exact gained
    · rw [if_neg writable] at step ⊢
      rw [← refused_iff writable evicts]
      constructor
      · intro keeps
        have same := (keeps.rejected (by rw [step])).2
        rw [step] at same
        exact same
      · intro same
        refine ⟨?_, ?_⟩
        · intro _
          rw [step]
          exact ⟨rfl, same⟩
        · rw [step]
          nofun
  · refine iff_of_true (keeps_elsewhere telemetry ?_) ?_
    · intro text goes
      exact spools ⟨text, goes⟩
    · intro text count goes
      exact absurd ⟨text, goes⟩ spools

theorem enqueue_large (telemetry : event.tier = .telemetry)
    (goes : GoesToSpool codec queue event text)
    (large : queue.limits.maxSpoolBytes < (encodedSize text : ℕ)) :
    (queue.enqueue codec io event).2 = .ok false ∧
      (queue.enqueue codec io event).1.spoolFiles = [] := by
  have evicts : Evicts io queue (encodedSize text) queue.spoolFiles.length := by
    refine ⟨Nat.le_refl _, ?_, .inl rfl⟩
    intro fewer _
    right
    have counted := Nat.le_add_left (encodedSize text) (queue.evicted io fewer).spoolBytes
    omega
  have unwritable : ¬ Writable io queue.limits text := fun writable =>
    absurd writable.size (Int.not_le.2 large)
  rw [enqueue_goes telemetry goes, spoolEvent_eq goes.enabled goes.dumped evicts,
    if_neg unwritable]
  exact ⟨rfl, List.drop_length⟩

end

/-! ## A spool of one event -/

def telemetryJson (event : ModelQueuedEvent) : String :=
  "\x7b\"event_id\":\"" ++ event.eventId.value ++ "\",\"event_type\":\"" ++
    event.eventType.value ++ "\",\"topic\":\"" ++ event.topic.value ++ "\",\"payload\":" ++
    (match event.payload with
      | .str text => "\"" ++ text ++ "\""
      | _ => "\x7b\x7d") ++
    ",\"partition_key\":null,\"queued_at\":\"2026-01-01T00:00:00Z\",\"tier\":\"telemetry\"\x7d"

def telemetryCodec : EventCodec where
  dumpJson event := some (telemetryJson event)
  validateJson _ := none

def telemetryEvent (id : NonEmptyString) (payload : PyValue) : ModelQueuedEvent where
  eventId := id
  eventType := ⟨"tool.executed", by decide⟩
  topic := ⟨"onex.evt.omniclaude.tool-executed.v1", by decide⟩
  payload := payload
  queuedAt := 1767225600000000

def firstEvent : ModelQueuedEvent := telemetryEvent ⟨"t-1", by decide⟩ (.dict [])
def secondEvent : ModelQueuedEvent := telemetryEvent ⟨"t-2", by decide⟩ (.dict [])

/-- Its payload alone is larger than the spool. -/
def largeEvent : ModelQueuedEvent :=
  telemetryEvent ⟨"t-3", by decide⟩ (.str (String.ofList (List.replicate 300 'x')))

def eventDisk (now : ℕ) : DiskIO := { now := now }

def oneSpooled (maxSpoolMessages : ℤ) : BoundedEventQueue where
  limits := ⟨0, maxSpoolMessages, 300⟩
  memoryQueue := []
  spoolFiles := [spoolFile (eventDisk 1) firstEvent]
  spoolBytes := encodedSize (telemetryJson firstEvent)
  spoolDirectory :=
    OrderedDict.empty.set (spoolFile (eventDisk 1) firstEvent) (telemetryJson firstEvent)
  outbox := ⟨⟨5, 50, smallOutbox_messages, smallOutbox_bytes⟩, [], 0, .empty⟩
  inFlightOutbox := .empty

/-- An event that cannot be spooled takes the spooled one with it. -/
theorem rejected_event_evicts :
    ((oneSpooled 10).enqueue telemetryCodec (eventDisk 2) largeEvent).2 = .ok false ∧
      (oneSpooled 10).spooled.length = 1 ∧
      ((oneSpooled 10).enqueue telemetryCodec (eventDisk 2) largeEvent).1.spooled = [] ∧
      ¬ KeepsBacklog telemetryCodec (eventDisk 2) (oneSpooled 10) largeEvent := by
  have large : (300 : ℤ) < (encodedSize (telemetryJson largeEvent) : ℕ) := by decide +kernel
  obtain ⟨refused, emptied⟩ :=
    @enqueue_large telemetryCodec (eventDisk 2) (oneSpooled 10) largeEvent _ rfl
      ⟨by decide, by decide, rfl⟩ large
  have gone : ((oneSpooled 10).enqueue telemetryCodec (eventDisk 2) largeEvent).1.spooled = [] := by
    rw [spooled, emptied, List.map_nil]
  refine ⟨refused, rfl, gone, ?_⟩
  intro keeps
  have same := (keeps.rejected refused).2
  rw [gone] at same
  cases same

/-- The spool is full with one event, so the next one costs it. -/
theorem keeps_backlog_one :
    KeepsBacklog telemetryCodec (eventDisk 2) (oneSpooled 1) secondEvent := by
  refine (keeps_backlog_iff telemetryCodec (eventDisk 2) (oneSpooled 1) rfl).2 ?_
  intro text count goes evicts
  obtain rfl : telemetryJson secondEvent = text := Option.some.inj goes.dumped
  have first : Evicts (eventDisk 2) (oneSpooled 1) (encodedSize (telemetryJson secondEvent)) 1 := by
    refine ⟨Nat.le_refl _, ?_, .inl rfl⟩
    intro fewer before
    obtain rfl : fewer = 0 := Nat.lt_one_iff.1 before
    exact .inl (by decide)
  obtain rfl := evicts.unique first
  have writable : Writable (eventDisk 2) (oneSpooled 1).limits (telemetryJson secondEvent) :=
    ⟨by decide +kernel, rfl, rfl⟩
  rw [if_pos writable]
  refine ⟨?_, ?_⟩
  · intro fewer before
    obtain rfl : fewer = 0 := Nat.lt_one_iff.1 before
    exact .inl (by decide)
  · intro file stays
    cases stays

end OmniMarket.EmitDaemon.BoundedEventQueue
