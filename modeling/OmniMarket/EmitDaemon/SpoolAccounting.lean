import OmniMarket.EmitDaemon.OutboxInvariant
import OmniMarket.EmitDaemon.Rejection

/-!
# The byte counter of the spool

`_spool_bytes` is to be the sum of the sizes of the spooled files. The branches that take a file
from the list and leave its bytes in the counter are those where a `stat`, a read or an `unlink`
raises before the subtraction.
-/

namespace OmniMarket.EmitDaemon.BoundedEventQueue

variable {codec : EventCodec} {io : DiskIO} {queue : BoundedEventQueue} {file : FileName}
  {directory : Directory}

def spooledSize (queue : BoundedEventQueue) : ℕ :=
  (queue.spoolFiles.map (fileSize queue.spoolDirectory)).sum

structure SpoolSound (queue : BoundedEventQueue) : Prop where
  distinct : queue.spoolFiles.Nodup
  counted : queue.spoolBytes = queue.spooledSize
  messages : (queue.spoolFiles.length : ℤ) ≤ queue.limits.maxSpoolMessages
  bytes : (queue.spooledSize : ℤ) ≤ queue.limits.maxSpoolBytes

/-! ## Sizes -/

section

variable {next : Directory} {count : ℕ}

theorem fileSize_congr (same : next.get? file = directory.get? file) :
    fileSize next file = fileSize directory file := by
  unfold fileSize
  rw [same]

theorem stat_size {size : ℕ} (stated : stat io directory file = some size) :
    size = fileSize directory file := by
  unfold stat at stated
  split at stated
  · cases stated
  · unfold fileSize
    rw [stated]
    rfl

/-- A drop of the file takes its bytes off the counter, unless it has none. -/
def DropsClean (io : DiskIO) (directory : Directory) (file : FileName) : Prop :=
  fileSize directory file ≠ 0 → Removes io directory file

theorem discard_size (clean : DropsClean io directory file) :
    (discard io directory file).1 = fileSize directory file := by
  by_cases removes : Removes io directory file
  · obtain ⟨known, unlinked⟩ := removes
    obtain ⟨size, stated⟩ := Option.isSome_iff_exists.1 known
    unfold discard
    rw [stated, unlink, unlinked]
    exact stat_size stated
  · rw [discard_keeps removes]
    refine (Nat.eq_zero_of_not_pos ?_).symm
    intro positive
    exact removes (clean (Nat.ne_of_gt positive))

theorem discardAll_size {files : List FileName} (distinct : files.Nodup)
    (clean : ∀ file ∈ files, DropsClean io directory file) :
    (discardAll io directory files).1 = (files.map (fileSize directory)).sum := by
  induction files generalizing directory with
  | nil => rfl
  | cons first rest ih =>
    obtain ⟨apart, distinct⟩ := List.nodup_cons.1 distinct
    have held : ∀ file ∈ rest,
        (discard io directory first).2.get? file = directory.get? file := by
      intro file listed
      refine discard_other ?_
      rintro rfl
      exact apart listed
    have later := @ih (discard io directory first).2 distinct (by
      intro file listed positive
      rw [fileSize_congr (held file listed)] at positive
      exact (removes_congr (held file listed)).2
        (clean file (List.mem_cons_of_mem _ listed) positive))
    show (discard io directory first).1 + _ = _
    rw [later, discard_size (clean first List.mem_cons_self), List.map_cons, List.sum_cons,
      List.map_congr_left fun file listed => fileSize_congr (held file listed)]

theorem spooledSize_congr {next : BoundedEventQueue} (files : next.spoolFiles = queue.spoolFiles)
    (same : ∀ file ∈ queue.spoolFiles,
      next.spoolDirectory.get? file = queue.spoolDirectory.get? file) :
    next.spooledSize = queue.spooledSize := by
  unfold spooledSize
  rw [files, List.map_congr_left fun file listed => fileSize_congr (same file listed)]

theorem evicted_get? (distinct : queue.spoolFiles.Nodup)
    (kept : file ∈ queue.spoolFiles.drop count) :
    (queue.evicted io count).spoolDirectory.get? file = queue.spoolDirectory.get? file := by
  refine discardAll_kept ?_
  intro dropped
  rw [← List.take_append_drop count queue.spoolFiles, List.nodup_append] at distinct
  exact absurd rfl (distinct.2.2 file dropped file kept)

theorem evicted_size (distinct : queue.spoolFiles.Nodup) :
    (queue.evicted io count).spooledSize =
      ((queue.spoolFiles.drop count).map (fileSize queue.spoolDirectory)).sum := by
  show ((queue.spoolFiles.drop count).map _).sum = _
  rw [List.map_congr_left fun file kept => fileSize_congr (evicted_get? distinct kept)]

theorem evicted_sound (sound : SpoolSound queue)
    (clean : ∀ file ∈ queue.spoolFiles.take count, DropsClean io queue.spoolDirectory file) :
    SpoolSound (queue.evicted io count) := by
  have split : queue.spooledSize =
      ((queue.spoolFiles.take count).map (fileSize queue.spoolDirectory)).sum +
        ((queue.spoolFiles.drop count).map (fileSize queue.spoolDirectory)).sum := by
    rw [← List.sum_append, ← List.map_append, List.take_append_drop]
    rfl
  have size := @evicted_size io queue count sound.distinct
  refine ⟨(List.drop_sublist count _).nodup sound.distinct, ?_, ?_, ?_⟩
  · show queue.spoolBytes - (discardAll io _ (queue.spoolFiles.take count)).1 = _
    rw [discardAll_size ((List.take_sublist count _).nodup sound.distinct) clean, size,
      sound.counted, split, Nat.add_sub_cancel_left]
  · have shorter := (List.drop_sublist count queue.spoolFiles).length_le
    have within := sound.messages
    show ((queue.spoolFiles.drop count).length : ℤ) ≤ queue.limits.maxSpoolMessages
    omega
  · have within := sound.bytes
    show ((queue.evicted io count).spooledSize : ℤ) ≤ queue.limits.maxSpoolBytes
    omega

end

/-! ## Spooling an event -/

/-- A write is reached, and it leaves something in its file. -/
structure Leaves (io : DiskIO) (limits : QueueLimits) (text : String) : Prop where
  size : (encodedSize text : ℤ) ≤ limits.maxSpoolBytes
  mkdir : io.mkdirRaises = false
  write : io.write ≠ .raised none

/-- Each file that the loop drops is removed, and the write is to none of the files that stay. -/
structure SpoolsClean (codec : EventCodec) (io : DiskIO) (queue : BoundedEventQueue)
    (event : ModelQueuedEvent) : Prop where
  dropped : ∀ text count, spoolingDisabled queue.limits = false →
    codec.dumpJson event = some text → Evicts io queue (encodedSize text) count →
    ∀ file ∈ queue.spoolFiles.take count, DropsClean io queue.spoolDirectory file
  fresh : ∀ text count, spoolingDisabled queue.limits = false →
    codec.dumpJson event = some text → Evicts io queue (encodedSize text) count →
    Leaves io queue.limits text → spoolFile io event ∉ queue.spoolFiles.drop count

section

variable {event : ModelQueuedEvent} {text : String} {count : ℕ}

theorem writeText_other {path file : FileName} (differs : file ≠ path)
    (result : WriteResult) : (writeText directory path text result).get? file =
      directory.get? file := by
  cases result with
  | written => exact OrderedDict.get?_set_other differs
  | raised left =>
    cases left with
    | none => rfl
    | some left => exact OrderedDict.get?_set_other differs

theorem refusedDirectory_get?
    (fresh : Leaves io queue.limits text → file ≠ spoolFile io event) :
    (refusedDirectory io queue event text count).get? file =
      (queue.evicted io count).spoolDirectory.get? file := by
  unfold refusedDirectory
  dsimp only
  by_cases unreached :
      queue.limits.maxSpoolBytes < (encodedSize text : ℕ) ∨ io.mkdirRaises = true
  · rw [if_pos unreached]
  · rw [if_neg unreached]
    obtain ⟨small, mkdir⟩ := not_or.1 unreached
    by_cases nothing : io.write = .raised none
    · rw [nothing]
      rfl
    · have leaves : Leaves io queue.limits text :=
        ⟨Int.not_lt.1 small, Bool.eq_false_of_not_eq_true mkdir, nothing⟩
      exact writeText_other (fresh leaves) _

theorem Evicts.room (evicts : Evicts io queue (encodedSize text) count)
    (sound : SpoolSound (queue.evicted io count)) (enabled : spoolingDisabled queue.limits = false)
    (small : (encodedSize text : ℤ) ≤ queue.limits.maxSpoolBytes)
    (messages : 0 ≤ queue.limits.maxSpoolMessages) :
    ((queue.spoolFiles.drop count).length + 1 : ℤ) ≤ queue.limits.maxSpoolMessages ∧
      ((queue.evicted io count).spooledSize + encodedSize text : ℤ) ≤
        queue.limits.maxSpoolBytes := by
  have positive : queue.limits.maxSpoolMessages ≠ 0 := by
    intro zero
    simp [spoolingDisabled, zero] at enabled
  have counted := sound.counted
  rcases evicts.enough with all | room
  · have empty : queue.spoolFiles.drop count = [] := by
      rw [all, List.drop_length]
    have size : (queue.evicted io count).spooledSize = 0 := by
      show ((queue.spoolFiles.drop count).map _).sum = 0
      rw [empty, List.map_nil, List.sum_nil]
    rw [empty, List.length_nil]
    omega
  · obtain ⟨few, fits⟩ := not_or.1 room
    rw [List.length_drop]
    omega

theorem appended_sound (sound : SpoolSound queue) (new : file ∉ queue.spoolFiles)
    (messages : (queue.spoolFiles.length + 1 : ℤ) ≤ queue.limits.maxSpoolMessages)
    (bytes : (queue.spooledSize + encodedSize text : ℤ) ≤ queue.limits.maxSpoolBytes) :
    SpoolSound
      { queue with
        spoolFiles := queue.spoolFiles ++ [file]
        spoolBytes := queue.spoolBytes + encodedSize text
        spoolDirectory := queue.spoolDirectory.set file text } := by
  have held : ∀ other ∈ queue.spoolFiles,
      (queue.spoolDirectory.set file text).get? other = queue.spoolDirectory.get? other := by
    intro other listed
    refine OrderedDict.get?_set_other ?_
    rintro rfl
    exact new listed
  have size : ((queue.spoolFiles ++ [file]).map
      (fileSize (queue.spoolDirectory.set file text))).sum =
        queue.spooledSize + encodedSize text := by
    rw [List.map_append, List.sum_append, List.map_singleton, List.sum_singleton,
      List.map_congr_left fun other listed => fileSize_congr (held other listed)]
    unfold fileSize
    rw [OrderedDict.get?_set_self]
    rfl
  refine ⟨?_, ?_, ?_, ?_⟩
  · refine List.nodup_append.2 ⟨sound.distinct, List.nodup_singleton file, ?_⟩
    intro listed there other single same
    rw [List.mem_singleton] at single
    exact new (single ▸ same ▸ there)
  · show queue.spoolBytes + encodedSize text = ((queue.spoolFiles ++ [file]).map _).sum
    rw [size, sound.counted]
  · show ((queue.spoolFiles ++ [file]).length : ℤ) ≤ queue.limits.maxSpoolMessages
    rw [List.length_append, List.length_singleton]
    omega
  · show ((((queue.spoolFiles ++ [file]).map _).sum : ℕ) : ℤ) ≤ queue.limits.maxSpoolBytes
    rw [size]
    omega

theorem SpoolSound.redirect (sound : SpoolSound queue)
    (same : ∀ file ∈ queue.spoolFiles, directory.get? file = queue.spoolDirectory.get? file) :
    SpoolSound { queue with spoolDirectory := directory } := by
  have size : ({ queue with spoolDirectory := directory } : BoundedEventQueue).spooledSize =
      queue.spooledSize := spooledSize_congr rfl same
  refine ⟨sound.distinct, ?_, sound.messages, ?_⟩
  · rw [size]
    exact sound.counted
  · rw [size]
    exact sound.bytes

theorem spoolEvent_sound (sound : SpoolSound queue) (clean : SpoolsClean codec io queue event) :
    SpoolSound (spoolEvent codec io queue event).1 := by
  cases enabled : spoolingDisabled queue.limits with
  | true =>
    unfold spoolEvent
    rw [enabled]
    exact sound
  | false =>
    cases dumped : codec.dumpJson event with
    | none =>
      unfold spoolEvent
      rw [enabled, dumped]
      exact sound
    | some text =>
      obtain ⟨count, evicts, -⟩ := makeRoom_evicts io (encodedSize text) queue
      have after := evicted_sound sound (clean.dropped text count enabled dumped evicts)
      have fresh := clean.fresh text count enabled dumped evicts
      have nonnegative : 0 ≤ queue.limits.maxSpoolMessages := by
        have within := sound.messages
        omega
      rw [spoolEvent_eq enabled dumped evicts]
      split
      · next writable =>
        have new : spoolFile io event ∉ queue.spoolFiles.drop count :=
          fresh ⟨writable.size, writable.mkdir, by rw [writable.write]; nofun⟩
        obtain ⟨messages, bytes⟩ := evicts.room after enabled writable.size nonnegative
        exact appended_sound after new messages bytes
      · refine after.redirect ?_
        intro file stays
        refine refusedDirectory_get? ?_
        rintro leaves rfl
        exact fresh leaves stays

end

/-! ## Taking an event from the spool -/

/-- The file can be read and sized where its size counts. A file of a foreign writer with `\r\n`
is to be sized even when it holds an event. -/
structure ReadsClean (codec : EventCodec) (io : DiskIO) (directory : Directory)
    (file : FileName) : Prop where
  read : fileSize directory file ≠ 0 → io.readRaises file = false
  stated : fileSize directory file ≠ 0 → ∀ content, directory.get? file = some content →
    codec.validateJson content = none → io.statRaises file = false
  folded : ∀ content, directory.get? file = some content →
    ['\r', '\n'] <:+: content.toList → io.statRaises file = false

section

variable {rest : List FileName}

theorem popped_sound (sound : SpoolSound queue) (files : queue.spoolFiles = file :: rest)
    {size : ℕ} (size_eq : size = fileSize queue.spoolDirectory file)
    (same : ∀ other, other ≠ file → directory.get? other = queue.spoolDirectory.get? other) :
    SpoolSound
      { queue with
        spoolFiles := rest
        spoolBytes := queue.spoolBytes - size
        spoolDirectory := directory } := by
  obtain ⟨distinct, counted, messages, bytes⟩ := sound
  have split : queue.spooledSize = size + (rest.map (fileSize queue.spoolDirectory)).sum := by
    rw [spooledSize, files, List.map_cons, List.sum_cons, size_eq]
  rw [files, List.nodup_cons] at distinct
  rw [files, List.length_cons] at messages
  have left : (rest.map (fileSize directory)).sum =
      (rest.map (fileSize queue.spoolDirectory)).sum := by
    refine congrArg List.sum (List.map_congr_left ?_)
    intro other listed
    refine fileSize_congr (same other ?_)
    rintro rfl
    exact distinct.1 listed
  refine ⟨distinct.2, ?_, ?_, ?_⟩
  · show queue.spoolBytes - size = (rest.map _).sum
    rw [left, counted, split, Nat.add_sub_cancel_left]
  · show (rest.length : ℤ) ≤ queue.limits.maxSpoolMessages
    omega
  · show (((rest.map _).sum : ℕ) : ℤ) ≤ queue.limits.maxSpoolBytes
    rw [left]
    omega

theorem unlinked_other (io : DiskIO) (directory : Directory) {other : FileName}
    (differs : other ≠ file) :
    ((unlink io directory file).getD directory).get? other = directory.get? other := by
  unfold unlink
  split
  · rfl
  · exact OrderedDict.get?_erase_other differs

/-- Only a `\r\n` is shorter when it is read. -/
theorem universalNewlines_size {text : List Char} (unfolded : ¬ ['\r', '\n'] <:+: text) :
    encodedSize (String.ofList (universalNewlines text)) = encodedSize (String.ofList text) := by
  fun_induction universalNewlines text with
  | case1 rest => exact absurd (List.prefix_append ['\r', '\n'] rest).isInfix unfolded
  | case2 rest _ ih | case3 c rest _ _ ih =>
    have later := ih fun inside => unfolded (inside.trans (List.suffix_cons ..).isInfix)
    simp only [encodedSize, String.ofList_cons, String.utf8ByteSize_append] at later ⊢
    exact congrArg₂ (· + ·) rfl later
  | case4 => rfl

theorem dequeueFromSpool_sound (sound : SpoolSound queue) (files : queue.spoolFiles = file :: rest)
    (clean : ReadsClean codec io queue.spoolDirectory file) :
    SpoolSound (dequeueFromSpool codec io queue file rest).1 := by
  have others := fun other differs => @unlinked_other file io queue.spoolDirectory other differs
  have sized : ∀ content, readText io queue.spoolDirectory file = some content →
      encodedSize content = fileSize queue.spoolDirectory file := by
    intro content read
    unfold readText at read
    split at read
    · cases read
    · unfold fileSize
      rw [read]
      rfl
  unfold dequeueFromSpool
  dsimp only
  cases read : readText io queue.spoolDirectory file with
  | none =>
    have empty : 0 = fileSize queue.spoolDirectory file := by
      refine (Nat.eq_zero_of_not_pos ?_).symm
      intro positive
      have nonzero := Nat.ne_of_gt positive
      unfold readText at read
      rw [clean.read nonzero, if_neg Bool.false_ne_true] at read
      simp [fileSize, read] at nonzero
    exact popped_sound sound files empty others
  | some content =>
    have held : queue.spoolDirectory.get? file = some content := by
      unfold readText at read
      split at read
      · cases read
      · exact read
    dsimp only
    cases parsed : codec.validateJson content with
    | none =>
      refine popped_sound sound files ?_ others
      cases stated : stat io queue.spoolDirectory file with
      | some size => exact stat_size stated
      | none =>
        refine (Nat.eq_zero_of_not_pos ?_).symm
        intro positive
        have known := clean.stated (Nat.ne_of_gt positive) content held parsed
        simp [stat, known, held] at stated
    | some event =>
      refine popped_sound sound files ?_ others
      cases stated : stat io queue.spoolDirectory file with
      | some size => exact stat_size stated
      | none =>
        have unfolded : ¬ ['\r', '\n'] <:+: content.toList := by
          intro inside
          simp [stat, clean.folded content held inside, held] at stated
        rw [Option.getD_none, readSize, universalNewlines_size unfolded, String.ofList_toList]
        exact sized content read

end

/-! ## Loading the spool -/

/-- The files that `load_spool` lists. -/
def loadable (io : DiskIO) (queue : BoundedEventQueue) : List FileName :=
  (sortedFiles queue.spoolDirectory).filter fun file =>
    (stat io queue.spoolDirectory file).isSome

structure LoadsWithin (io : DiskIO) (queue : BoundedEventQueue) : Prop where
  messages : ((loadable io queue).length : ℤ) ≤ queue.limits.maxSpoolMessages
  bytes : ((((loadable io queue).map (fileSize queue.spoolDirectory)).sum : ℕ) : ℤ) ≤
    queue.limits.maxSpoolBytes

theorem loadFiles_eq (io : DiskIO) (queue : BoundedEventQueue) (files : List FileName) :
    files.foldl (loadSpoolFile io) queue =
      let listed := files.filter fun file => (stat io queue.spoolDirectory file).isSome
      { queue with
        spoolFiles := queue.spoolFiles ++ listed
        spoolBytes := queue.spoolBytes + (listed.map (fileSize queue.spoolDirectory)).sum } := by
  induction files generalizing queue with
  | nil => simp
  | cons file rest ih =>
    rw [List.foldl_cons, ih, List.filter_cons]
    unfold loadSpoolFile
    cases stated : stat io queue.spoolDirectory file with
    | none => simp
    | some size =>
      have known := stat_size stated
      simp [known, Nat.add_assoc]

theorem loadSpool_sound (within : LoadsWithin io queue) : SpoolSound (loadSpool io queue) := by
  have loaded : loadSpool io queue =
      { queue with
        spoolFiles := loadable io queue
        spoolBytes := ((loadable io queue).map (fileSize queue.spoolDirectory)).sum } := by
    unfold loadSpool
    rw [loadFiles_eq]
    simp [loadable]
  rw [loaded]
  exact ⟨(DurableOutbox.sortedFiles_nodup _).filter _, rfl, within.messages, within.bytes⟩

/-! ## Runs -/

inductive SpoolAct where
  | enqueue (io : DiskIO) (event : ModelQueuedEvent)
  | dequeue (io : DiskIO)
  | drainToSpool (io : ℕ → DiskIO)
  | loadSpool (io : DiskIO)

def act (codec : EventCodec) (queue : BoundedEventQueue) : SpoolAct → BoundedEventQueue
  | .enqueue io event => (queue.enqueue codec io event).1
  | .dequeue io => (queue.dequeue codec io).1
  | .drainToSpool io => (queue.drainToSpool codec io).1
  | .loadSpool io => queue.loadSpool io

def DrainsClean (codec : EventCodec) (io : ℕ → DiskIO) (queue : BoundedEventQueue) :
    List ModelQueuedEvent → Prop
  | [] => True
  | event :: rest =>
    SpoolsClean codec (io 0) { queue with memoryQueue := rest } event ∧
      DrainsClean codec (fun index => io (index + 1))
        (spoolEvent codec (io 0) { queue with memoryQueue := rest } event).1 rest

/-- The operation takes no branch that leaves bytes of a file that is gone, and what it loads is
within the limits. -/
def Clean (codec : EventCodec) (queue : BoundedEventQueue) : SpoolAct → Prop
  | .enqueue io event =>
    event.tier = .telemetry → queue.limits.maxMemoryQueue ≤ (queue.memoryQueue.length : ℕ) →
      SpoolsClean codec io queue event
  | .dequeue io =>
    ∀ file rest, queue.outbox.peek = none → queue.memoryQueue = [] →
      queue.spoolFiles = file :: rest → ReadsClean codec io queue.spoolDirectory file
  | .drainToSpool io =>
    spoolingDisabled queue.limits = false → DrainsClean codec io queue queue.memoryQueue
  | .loadSpool io => LoadsWithin io queue

def CleanRun (codec : EventCodec) (queue : BoundedEventQueue) : List SpoolAct → Prop
  | [] => True
  | next :: rest => Clean codec queue next ∧ CleanRun codec (act codec queue next) rest

/-- The queue of `__init__`; the spool directory may hold files of an earlier process. -/
def opened (limits : QueueLimits) (outboxLimits : OutboxLimits)
    (spoolDirectory outboxDirectory : Directory) : BoundedEventQueue where
  limits := limits
  memoryQueue := []
  spoolFiles := []
  spoolBytes := 0
  spoolDirectory := spoolDirectory
  outbox := ⟨outboxLimits, [], 0, outboxDirectory⟩
  inFlightOutbox := .empty

structure Exact (codec : EventCodec) (queue : BoundedEventQueue) : Prop where
  counted : queue.spoolBytes = queue.spooledSize
  messages : (queue.spoolFiles.length : ℤ) ≤ queue.limits.maxSpoolMessages
  bytes : (queue.spooledSize : ℤ) ≤ queue.limits.maxSpoolBytes
  spare : ∀ io event text, codec.dumpJson event = some text →
    (queue.spoolFiles.length : ℤ) < queue.limits.maxSpoolMessages →
    (queue.spooledSize + encodedSize text : ℤ) ≤ queue.limits.maxSpoolBytes →
    queue.spoolFiles <+: (spoolEvent codec io queue event).1.spoolFiles

section

variable (sound : SpoolSound queue)

include sound

theorem SpoolSound.exact : Exact codec queue := by
  refine ⟨sound.counted, sound.messages, sound.bytes, ?_⟩
  intro io event text dumped few fits
  cases enabled : spoolingDisabled queue.limits with
  | true =>
    unfold spoolEvent
    rw [enabled]
    exact List.prefix_refl _
  | false =>
    have evicts : Evicts io queue (encodedSize text) 0 := by
      refine ⟨Nat.zero_le _, fun _ before => absurd before (Nat.not_lt_zero _), .inr ?_⟩
      have counted := sound.counted
      rintro (many | large)
      · rw [Nat.sub_zero] at many
        omega
      · replace large : queue.limits.maxSpoolBytes <
            (queue.spoolBytes + encodedSize text : ℕ) := large
        omega
    rw [spoolEvent_eq enabled dumped evicts]
    split
    · exact List.prefix_append ..
    · exact List.prefix_refl _

theorem drainEvents_sound {io : ℕ → DiskIO} {events : List ModelQueuedEvent} (clean : DrainsClean codec io queue events) :
    SpoolSound (drainEvents codec io queue events).1 := by
  induction events generalizing io queue with
  | nil => exact sound
  | cons event rest ih =>
    refine ih ?_ clean.2
    refine spoolEvent_sound ?_ clean.1
    exact ⟨sound.distinct, sound.counted, sound.messages, sound.bytes⟩

theorem enqueue_sound {event : ModelQueuedEvent}
    (clean : Clean codec queue (.enqueue io event)) :
    SpoolSound (queue.enqueue codec io event).1 := by
  unfold enqueue
  cases tier : event.tier with
  | dutyCritical => exact ⟨sound.distinct, sound.counted, sound.messages, sound.bytes⟩
  | telemetry =>
    dsimp only
    split
    · exact ⟨sound.distinct, sound.counted, sound.messages, sound.bytes⟩
    · next full =>
      split
      · exact sound
      · exact spoolEvent_sound sound (clean tier (Int.not_lt.1 full))

theorem dequeue_sound
    (clean : Clean codec queue (.dequeue io)) : SpoolSound (queue.dequeue codec io).1 := by
  unfold dequeue
  cases peeked : queue.outbox.peek with
  | some record => exact ⟨sound.distinct, sound.counted, sound.messages, sound.bytes⟩
  | none =>
    dsimp only
    split
    · exact ⟨sound.distinct, sound.counted, sound.messages, sound.bytes⟩
    · next file rest memory files =>
      exact dequeueFromSpool_sound sound files (clean file rest peeked memory files)
    · exact sound

theorem SpoolSound.act {next : SpoolAct}
    (clean : Clean codec queue next) : SpoolSound (queue.act codec next) := by
  cases next with
  | enqueue io event => exact enqueue_sound sound clean
  | dequeue io => exact dequeue_sound sound clean
  | drainToSpool io =>
    show SpoolSound (queue.drainToSpool codec io).1
    unfold drainToSpool
    cases disabled : spoolingDisabled queue.limits with
    | true => exact sound
    | false => exact drainEvents_sound sound (clean disabled)
  | loadSpool io => exact loadSpool_sound clean

theorem SpoolSound.run {acts : List SpoolAct} (clean : CleanRun codec queue acts) :
    ∀ reached ∈ acts.scanl (BoundedEventQueue.act codec) queue, SpoolSound reached := by
  induction acts generalizing queue with
  | nil =>
    intro reached listed
    rw [List.scanl_nil, List.mem_singleton] at listed
    exact listed ▸ sound
  | cons next rest ih =>
    intro reached listed
    rw [List.scanl_cons, List.mem_cons] at listed
    rcases listed with rfl | later
    · exact sound
    · exact ih (sound.act clean.1) clean.2 reached later

end

theorem spool_exact (codec : EventCodec) (limits : QueueLimits) (outboxLimits : OutboxLimits)
    (spoolDirectory outboxDirectory : Directory) (messages : 0 ≤ limits.maxSpoolMessages)
    (bytes : 0 ≤ limits.maxSpoolBytes) (acts : List SpoolAct)
    (clean : CleanRun codec (opened limits outboxLimits spoolDirectory outboxDirectory) acts) :
    ∀ reached ∈ acts.scanl (act codec)
      (opened limits outboxLimits spoolDirectory outboxDirectory), Exact codec reached := by
  have start : SpoolSound (opened limits outboxLimits spoolDirectory outboxDirectory) :=
    ⟨List.nodup_nil, rfl, messages, bytes⟩
  intro reached listed
  exact (start.run clean reached listed).exact

/-! ## One file that cannot be sized -/

def smallSpool : BoundedEventQueue :=
  opened ⟨0, 1, 300⟩ ⟨5, 50, smallOutbox_messages, smallOutbox_bytes⟩ .empty .empty

/-- The second event drops the first one, whose `stat` raises. -/
def failedDrop : List SpoolAct :=
  [.enqueue (eventDisk 1) firstEvent,
   .enqueue { now := 2, statRaises := fun _ => true } secondEvent]

def drifted : BoundedEventQueue := failedDrop.foldl (act telemetryCodec) smallSpool

/-- The bytes of the dropped file stay in the counter. -/
theorem failed_drop_drifts :
    drifted ∈ failedDrop.scanl (act telemetryCodec) smallSpool ∧
      drifted.spoolFiles = [spoolFile (eventDisk 2) secondEvent] ∧
      drifted.spoolBytes =
        encodedSize (telemetryJson firstEvent) + encodedSize (telemetryJson secondEvent) ∧
      ¬ Exact telemetryCodec drifted := by
  refine ⟨List.mem_cons_of_mem _ (List.mem_cons_of_mem _ List.mem_cons_self), ?_, ?_, ?_⟩
  · decide +kernel
  · decide +kernel
  · intro counter
    have drifts : drifted.spoolBytes ≠ drifted.spooledSize := by decide +kernel
    exact drifts counter.counted

def cleanActs : List SpoolAct :=
  [.enqueue (eventDisk 1) firstEvent, .enqueue (eventDisk 2) secondEvent, .dequeue (eventDisk 3)]

theorem cleanActs_clean : CleanRun telemetryCodec smallSpool cleanActs := by
  refine ⟨?_, ?_, ?_, trivial⟩
  · intro _ _
    refine ⟨?_, ?_⟩
    · intro text count _ _ _ file listed
      exact absurd (List.mem_of_mem_take listed) List.not_mem_nil
    · intro text count _ _ _ _ listed
      exact absurd (List.mem_of_mem_drop listed) List.not_mem_nil
  · intro _ _
    have files : (smallSpool.act telemetryCodec (.enqueue (eventDisk 1) firstEvent)).spoolFiles =
        [spoolFile (eventDisk 1) firstEvent] := by decide +kernel
    refine ⟨?_, ?_⟩
    · intro text count _ _ _ file listed _
      have first := List.mem_of_mem_take (files ▸ listed)
      rw [List.mem_singleton] at first
      subst first
      exact ⟨by decide +kernel, rfl⟩
    · intro text count _ _ _ _ listed
      have first := List.mem_of_mem_drop (files ▸ listed)
      rw [List.mem_singleton] at first
      exact absurd first (by decide)
  · intro file rest _ _ _
    exact ⟨fun _ => rfl, fun _ _ _ _ => rfl, fun _ _ _ => rfl⟩

theorem spool_exact_two :
    CleanRun telemetryCodec smallSpool cleanActs ∧
      ∀ reached ∈ cleanActs.scanl (act telemetryCodec) smallSpool, Exact telemetryCodec reached :=
  ⟨cleanActs_clean,
    spool_exact telemetryCodec _ _ _ _ (by decide) (by decide) cleanActs cleanActs_clean⟩

end OmniMarket.EmitDaemon.BoundedEventQueue
