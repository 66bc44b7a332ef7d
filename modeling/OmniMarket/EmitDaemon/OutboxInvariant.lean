import OmniMarket.EmitDaemon.Outbox

/-!
# What the outbox keeps

Each pending record has its own file, from which it can be loaded again, and the byte count is
the sum of the records' sizes.
-/

namespace OmniMarket.EmitDaemon

mutual

/-- A payload as JSON gives it back: the numbers that JSON lacks come back as `null`. -/
def throughJson : PyValue → PyValue
  | .float value => if value.isFinite then .float value else .none
  | .list items => .list (throughJsonItems items)
  | .dict entries => .dict (throughJsonEntries entries)
  | .none => .none
  | .bool value => .bool value
  | .int value => .int value
  | .str value => .str value

def throughJsonItems : List PyValue → List PyValue
  | [] => []
  | item :: items => throughJson item :: throughJsonItems items

def throughJsonEntries : PyDict → PyDict
  | [] => []
  | (key, value) :: entries => (key, throughJson value) :: throughJsonEntries entries

end

mutual

/-- JSON has every number that came out of it. -/
theorem throughJson_idem : ∀ value, throughJson (throughJson value) = throughJson value
  | .float value => by
    rw [throughJson]
    split
    · next finite => rw [throughJson, if_pos finite]
    · rfl
  | .list items => by rw [throughJson, throughJson, throughJsonItems_idem items]
  | .dict entries => by rw [throughJson, throughJson, throughJsonEntries_idem entries]
  | .none | .bool _ | .int _ | .str _ => rfl

theorem throughJsonItems_idem :
    ∀ items, throughJsonItems (throughJsonItems items) = throughJsonItems items
  | [] => rfl
  | item :: items => by
    rw [throughJsonItems, throughJsonItems, throughJson_idem item, throughJsonItems_idem items]

theorem throughJsonEntries_idem :
    ∀ entries, throughJsonEntries (throughJsonEntries entries) = throughJsonEntries entries
  | [] => rfl
  | (key, value) :: entries => by
    rw [throughJsonEntries, throughJsonEntries, throughJson_idem value,
      throughJsonEntries_idem entries]

end

/-- The event as it was, or as JSON gives it back. -/
def SameEvent (event loaded : ModelQueuedEvent) : Prop :=
  loaded = event ∨ loaded = { event with payload := throughJson event.payload }

theorem SameEvent.refl (event : ModelQueuedEvent) : SameEvent event event := .inl rfl

theorem SameEvent.trans {first second third : ModelQueuedEvent} (before : SameEvent first second)
    (after : SameEvent second third) : SameEvent first third := by
  rcases before with rfl | rfl
  · exact after
  · rcases after with rfl | rfl
    · exact .inr rfl
    · exact .inr (by rw [throughJson_idem])

theorem SameEvent.eventId {event loaded : ModelQueuedEvent} (same : SameEvent event loaded) :
    loaded.eventId = event.eventId := by
  rcases same with rfl | rfl <;> rfl

/-- What is written can be read back. -/
def LawfulCodec (codec : EventCodec) : Prop :=
  ∀ event text, codec.dumpJson event = some text →
    ∃ loaded, codec.validateJson text = some loaded ∧ SameEvent event loaded

namespace DurableOutbox

/-- The record's file is on disk and can be loaded. -/
def Stored (codec : EventCodec) (directory : Directory) (record : OutboxRecord) : Prop :=
  ∃ text loaded, directory.get? record.path = some text ∧
    codec.validateJson text = some loaded ∧ SameEvent record.event loaded

def Known (directory : Directory) (used : List String) (clock : ℕ) : Prop :=
  ∀ path ∈ directory.keys, path.eventId ∈ used ∧ path.timestamp ≤ clock

structure Intact (codec : EventCodec) (outbox : DurableOutbox) (used : List String)
    (clock : ℕ) : Prop where
  stored : ∀ record ∈ outbox.pending, Stored codec outbox.directory record
  paths : (outbox.pending.map OutboxRecord.path).Nodup
  known : Known outbox.directory used clock
  bytes : outbox.pendingBytes = (outbox.pending.map OutboxRecord.sizeBytes).sum
  ordered : outbox.pending.Pairwise fun first second =>
    first.path.timestamp ≤ second.path.timestamp

section

variable {codec : EventCodec} {io : DiskIO} {outbox : DurableOutbox} {used : List String}
  {clock : ℕ} {event : ModelQueuedEvent} {directory : Directory} {record : OutboxRecord}

theorem Stored.listed (stored : Stored codec directory record) : record.path ∈ directory.keys := by
  obtain ⟨text, loaded, found, -⟩ := stored
  exact OrderedDict.mem_keys.2 ⟨text, found⟩

theorem Stored.congr {next : Directory} (stored : Stored codec directory record)
    (same : next.get? record.path = directory.get? record.path) : Stored codec next record := by
  obtain ⟨text, loaded, found, rest⟩ := stored
  exact ⟨text, loaded, same.trans found, rest⟩

theorem Known.mono {used' : List String} {clock' : ℕ} (known : Known directory used clock)
    (uses : used ⊆ used') (later : clock ≤ clock') : Known directory used' clock' := by
  intro path listed
  obtain ⟨id, time⟩ := known path listed
  exact ⟨uses id, time.trans later⟩

variable {path : FileName}

theorem Known.fresh (known : Known directory used clock) (new : event.eventId.value ∉ used)
    (listed : path ∈ directory.keys) (now : ℕ) : path ≠ ⟨now, event.eventId.value⟩ := by
  intro same
  subst same
  exact new (known _ listed).1

/-! ## Append -/

theorem known_set {text : String} (known : Known directory used clock) (later : clock ≤ io.now) :
    Known (directory.set ⟨io.now, event.eventId.value⟩ text) (event.eventId.value :: used) io.now := by
  intro path listed
  by_cases own : path = ⟨io.now, event.eventId.value⟩
  · subst own
    exact ⟨List.mem_cons_self, Nat.le_refl _⟩
  · obtain ⟨value, found⟩ := OrderedDict.mem_keys.1 listed
    rw [OrderedDict.get?_set_other own] at found
    exact known.mono (List.subset_cons_self ..) later path (OrderedDict.mem_keys.2 ⟨value, found⟩)

theorem Intact.append (lawful : LawfulCodec codec) (intact : Intact codec outbox used clock)
    (new : event.eventId.value ∉ used) (later : clock ≤ io.now)
    (returned : (outbox.append codec io event).2 = .ok record) :
    record.event = event ∧
      (outbox.append codec io event).1.pending = outbox.pending ++ [record] ∧
      (outbox.append codec io event).1.limits = outbox.limits ∧
      (outbox.append codec io event).1.pendingBytes ≤ outbox.limits.maxBytes ∧
      Intact codec (outbox.append codec io event).1 (event.eventId.value :: used) io.now := by
  obtain ⟨eventJson, dumped, room, written⟩ := append_ok returned
  rw [append_written dumped room written] at returned ⊢
  cases returned
  obtain ⟨loaded, parses, same⟩ := lawful event eventJson dumped
  have others : ∀ record ∈ outbox.pending, record.path ≠ ⟨io.now, event.eventId.value⟩ :=
    fun record listed => intact.known.fresh new (intact.stored record listed).listed io.now
  refine ⟨rfl, rfl, rfl, ?_, ?_, ?_, ?_, ?_, ?_⟩
  · have bytes := room.bytes
    rw [List.sum_singleton] at bytes
    exact bytes
  · intro record listed
    rcases List.mem_append.1 listed with early | late
    · exact (intact.stored record early).congr (OrderedDict.get?_set_other (others record early))
    · cases List.mem_singleton.1 late
      exact ⟨eventJson, loaded, OrderedDict.get?_set_self .., parses, same⟩
  · rw [List.map_append, List.map_singleton, List.nodup_append]
    refine ⟨intact.paths, List.nodup_singleton _, ?_⟩
    intro path listed other single
    obtain ⟨record, pending, own⟩ := List.mem_map.1 listed
    rw [List.mem_singleton] at single
    rw [← own, single]
    exact others record pending
  · exact known_set intact.known later
  · show outbox.pendingBytes + encodedSize eventJson = _
    rw [List.map_append, List.sum_append, intact.bytes]
    rfl
  · refine List.pairwise_append.2 ⟨intact.ordered, List.pairwise_singleton .., ?_⟩
    intro record listed other single
    rw [List.mem_singleton] at single
    subst single
    exact (intact.known _ (intact.stored record listed).listed).2.trans later

theorem Intact.appendFailed (intact : Intact codec outbox used clock)
    (new : event.eventId.value ∉ used) (later : clock ≤ io.now) {error : AppendError}
    (raised : (outbox.append codec io event).2 = .error error) :
    (outbox.append codec io event).1.pending = outbox.pending ∧
      (outbox.append codec io event).1.limits = outbox.limits ∧
      (outbox.append codec io event).1.pendingBytes = outbox.pendingBytes ∧
      Intact codec (outbox.append codec io event).1 (event.eventId.value :: used) io.now := by
  obtain ⟨directory, appended, others⟩ := append_error raised
  rw [appended]
  refine ⟨rfl, rfl, rfl, ?_, intact.paths, ?_, intact.bytes, intact.ordered⟩
  · intro record listed
    have stored := intact.stored record listed
    exact stored.congr (others _ (intact.known.fresh new stored.listed io.now))
  · intro path listed
    by_cases own : path = ⟨io.now, event.eventId.value⟩
    · subst own
      exact ⟨List.mem_cons_self, Nat.le_refl _⟩
    · obtain ⟨value, found⟩ := OrderedDict.mem_keys.1 listed
      rw [others path own] at found
      exact intact.known.mono (List.subset_cons_self ..) later path
        (OrderedDict.mem_keys.2 ⟨value, found⟩)

/-! ## Acknowledgement -/

theorem ack_oldest {rest : List OutboxRecord} (oldest : outbox.pending = record :: rest) :
    outbox.ack io record =
      { outbox with
        pending := rest
        pendingBytes := outbox.pendingBytes - record.sizeBytes
        directory := (unlink io outbox.directory record.path).getD outbox.directory } := by
  unfold ack
  rw [oldest, if_pos List.mem_cons_self, List.erase_cons_head]

theorem unlink_cases (io : DiskIO) (directory : Directory) (path : FileName) :
    (unlink io directory path).getD directory = directory.erase path ∨
      (unlink io directory path).getD directory = directory := by
  unfold unlink
  split
  · exact .inr rfl
  · exact .inl rfl

theorem unlink_other (io : DiskIO) {other : FileName} (differs : other ≠ path) :
    ((unlink io directory path).getD directory).get? other = directory.get? other := by
  rcases unlink_cases io directory path with removed | stays
  · rw [removed]
    exact OrderedDict.get?_erase_other differs
  · rw [stays]

theorem unlink_keys (io : DiskIO) {other : FileName}
    (listed : other ∈ ((unlink io directory path).getD directory).keys) :
    other ∈ directory.keys := by
  rcases unlink_cases io directory path with removed | stays
  · rw [removed] at listed
    obtain ⟨value, found⟩ := OrderedDict.mem_keys.1 listed
    have differs : other ≠ path := by
      intro same
      rw [same, OrderedDict.get?_erase_self] at found
      cases found
    rw [OrderedDict.get?_erase_other differs] at found
    exact OrderedDict.mem_keys.2 ⟨value, found⟩
  · rwa [stays] at listed

theorem Intact.ack {rest : List OutboxRecord} (intact : Intact codec outbox used clock)
    (oldest : outbox.pending = record :: rest) :
    Intact codec (outbox.ack io record) used clock := by
  rw [ack_oldest oldest]
  have paths := intact.paths
  rw [oldest, List.map_cons, List.nodup_cons] at paths
  have ordered := intact.ordered
  rw [oldest, List.pairwise_cons] at ordered
  refine ⟨?_, paths.2, ?_, ?_, ordered.2⟩
  · intro other listed
    refine (intact.stored other (oldest ▸ List.mem_cons_of_mem _ listed)).congr ?_
    refine unlink_other io ?_
    intro same
    exact paths.1 (same ▸ List.mem_map_of_mem listed)
  · intro path listed
    exact intact.known path (unlink_keys io listed)
  · show outbox.pendingBytes - record.sizeBytes = _
    rw [intact.bytes, oldest, List.map_cons, List.sum_cons, Nat.add_sub_cancel_left]

/-! ## Restart -/

theorem loadRecord_spec (loaded : loadRecord codec io directory path = some record) :
    record.path = path ∧ Stored codec directory record := by
  unfold loadRecord at loaded
  obtain ⟨content, found, rest⟩ := Option.bind_eq_some_iff.1 loaded
  obtain ⟨event, parsed, built⟩ := Option.bind_eq_some_iff.1 rest
  cases built
  unfold readText at found
  split at found
  · cases found
  · exact ⟨rfl, content, event, found, parsed, .refl event⟩

theorem Stored.loads (reads : ∀ path, io.readRaises path = false)
    (stored : Stored codec directory record) :
    ∃ loaded, loadRecord codec io directory record.path = some loaded ∧
      SameEvent record.event loaded.event := by
  obtain ⟨text, loaded, found, parsed, same⟩ := stored
  refine ⟨⟨loaded, record.path, readSize text⟩, ?_, same⟩
  unfold loadRecord readText
  rw [reads, if_neg Bool.false_ne_true, found]
  show (codec.validateJson text).bind _ = _
  rw [parsed]
  rfl

theorem loadRecord_congr {next : Directory} (same : next.get? path = directory.get? path) :
    loadRecord codec io next path = loadRecord codec io directory path := by
  unfold loadRecord readText
  rw [same]

structure Loaded (codec : EventCodec) (io : DiskIO) (outbox next : DurableOutbox)
    (paths : List FileName) : Prop where
  limits : next.limits = outbox.limits
  pending : next.pending =
    outbox.pending ++ paths.filterMap (loadRecord codec io outbox.directory)
  bytes : next.pendingBytes = outbox.pendingBytes +
    ((paths.filterMap (loadRecord codec io outbox.directory)).map OutboxRecord.sizeBytes).sum
  kept : ∀ path, (loadRecord codec io outbox.directory path).isSome = true ∨ path ∉ paths →
    next.directory.get? path = outbox.directory.get? path
  keys : next.directory.keys ⊆ outbox.directory.keys

theorem loadFile_unreadable (unreadable : loadRecord codec io outbox.directory path = none) :
    (loadFile codec io outbox path).pending = outbox.pending ∧
      (loadFile codec io outbox path).pendingBytes = outbox.pendingBytes ∧
      (loadFile codec io outbox path).limits = outbox.limits ∧
      (∀ other, other ≠ path →
        (loadFile codec io outbox path).directory.get? other = outbox.directory.get? other) ∧
      (loadFile codec io outbox path).directory.keys ⊆ outbox.directory.keys := by
  unfold loadFile
  rw [unreadable]
  dsimp only
  refine ⟨rfl, rfl, rfl, ?_, ?_⟩
  · intro other differs
    unfold quarantine
    split
    · rfl
    · exact OrderedDict.get?_erase_other differs
  · unfold quarantine
    split
    · exact List.Subset.refl _
    · exact (List.filter_sublist.map Prod.fst).subset

theorem loadFiles_spec (outbox : DurableOutbox) {paths : List FileName} (distinct : paths.Nodup) :
    Loaded codec io outbox (paths.foldl (loadFile codec io) outbox) paths := by
  induction paths generalizing outbox with
  | nil =>
    exact ⟨rfl, (List.append_nil _).symm, rfl, fun _ _ => rfl, List.Subset.refl _⟩
  | cons path rest ih =>
    obtain ⟨new, distinct⟩ := List.nodup_cons.1 distinct
    rw [List.foldl_cons]
    have tail := ih (loadFile codec io outbox path) distinct
    cases loads : loadRecord codec io outbox.directory path with
    | none =>
      obtain ⟨pending, bytes, limits, others, keys⟩ := loadFile_unreadable loads
      -- the files still to come are not the one put aside
      have same : rest.filterMap (loadRecord codec io (loadFile codec io outbox path).directory) =
          rest.filterMap (loadRecord codec io outbox.directory) := by
        refine List.filterMap_congr ?_
        intro other listed
        refine loadRecord_congr (others other ?_)
        intro equal
        exact new (equal ▸ listed)
      refine ⟨tail.limits.trans limits, ?_, ?_, ?_, List.Subset.trans tail.keys keys⟩
      · rw [tail.pending, same, pending, List.filterMap_cons_none loads]
      · rw [tail.bytes, same, bytes, List.filterMap_cons_none loads]
      · intro other readable
        have differs : other ≠ path := by
          intro equal
          subst equal
          rcases readable with some_ | unlisted
          · rw [loads] at some_
            cases some_
          · exact unlisted List.mem_cons_self
        rw [tail.kept other ?_, others other differs]
        rcases readable with some_ | unlisted
        · rw [loadRecord_congr (others other differs)]
          exact .inl some_
        · exact .inr fun listed => unlisted (List.mem_cons_of_mem _ listed)
    | some record =>
      -- a readable file becomes the newest pending record and stays where it is
      have step : loadFile codec io outbox path =
          { outbox with
            pending := outbox.pending ++ [record]
            pendingBytes := outbox.pendingBytes + record.sizeBytes } := by
        unfold loadFile
        rw [loads]
      rw [step] at tail ⊢
      refine ⟨tail.limits, ?_, ?_, ?_, tail.keys⟩
      · rw [tail.pending, List.filterMap_cons_some loads, List.append_assoc, List.singleton_append]
      · rw [tail.bytes, List.filterMap_cons_some loads, List.map_cons, List.sum_cons, Nat.add_assoc]
      · intro other readable
        refine tail.kept other (readable.imp_right ?_)
        intro unlisted listed
        exact unlisted (List.mem_cons_of_mem _ listed)

theorem mem_sortedFiles : path ∈ sortedFiles directory ↔ path ∈ directory.keys :=
  List.mem_insertionSort FileName.le

theorem sortedFiles_nodup (directory : Directory) : (sortedFiles directory).Nodup :=
  (List.perm_insertionSort FileName.le directory.keys).nodup_iff.2 directory.nodup

theorem nameOrder_total (first second : FileName) :
    FileName.le first second ∨ FileName.le second first := by
  unfold FileName.le
  rcases Nat.lt_trichotomy first.timestamp second.timestamp with before | same | after
  · exact .inl (.inl before)
  · rcases le_total (first.eventId ++ ".json") (second.eventId ++ ".json") with below | above
    · exact .inl (.inr ⟨same, below⟩)
    · exact .inr (.inr ⟨same.symm, above⟩)
  · exact .inr (.inl after)

theorem nameOrder_trans {first second third : FileName} (below : FileName.le first second)
    (above : FileName.le second third) : FileName.le first third := by
  unfold FileName.le at below above ⊢
  rcases below with before | ⟨same, below⟩
  · rcases above with after | ⟨same', -⟩
    · exact .inl (before.trans after)
    · exact .inl (same' ▸ before)
  · rcases above with after | ⟨same', above⟩
    · exact .inl (same ▸ after)
    · exact .inr ⟨same.trans same', below.trans above⟩

theorem nameOrder_timestamp {first second : FileName} (below : FileName.le first second) :
    first.timestamp ≤ second.timestamp := by
  rcases below with before | ⟨same, -⟩
  · exact Nat.le_of_lt before
  · exact Nat.le_of_eq same

theorem sortedFiles_ordered (directory : Directory) :
    (sortedFiles directory).Pairwise fun first second => first.timestamp ≤ second.timestamp := by
  have total : Std.Total FileName.le := ⟨nameOrder_total⟩
  have trans : IsTrans FileName FileName.le := ⟨fun _ _ _ => nameOrder_trans⟩
  exact (List.pairwise_insertionSort FileName.le directory.keys).imp nameOrder_timestamp

theorem loaded_paths (paths : List FileName) :
    List.Sublist ((paths.filterMap (loadRecord codec io directory)).map OutboxRecord.path)
      paths := by
  induction paths with
  | nil => exact List.Sublist.refl _
  | cons path rest ih =>
    cases loads : loadRecord codec io directory path with
    | none =>
      rw [List.filterMap_cons_none loads]
      exact ih.trans (List.sublist_cons_self ..)
    | some record =>
      rw [List.filterMap_cons_some loads, List.map_cons, (loadRecord_spec loads).1]
      exact ih.cons_cons path

theorem Intact.load (codec : EventCodec) (outbox : DurableOutbox)
    (reads : ∀ path, io.readRaises path = false) (known : Known outbox.directory used clock) :
    Intact codec (outbox.loadPending codec io) used clock ∧
      ∀ record, Stored codec outbox.directory record →
        ∃ loaded ∈ (outbox.loadPending codec io).pending, SameEvent record.event loaded.event := by
  have spec : Loaded codec io { outbox with pending := [], pendingBytes := 0 }
      (outbox.loadPending codec io) (sortedFiles outbox.directory) :=
    loadFiles_spec _ (sortedFiles_nodup outbox.directory)
  obtain ⟨limits, pending, bytes, kept, keys⟩ := spec
  rw [List.nil_append] at pending
  rw [Nat.zero_add] at bytes
  have sublist : List.Sublist ((outbox.loadPending codec io).pending.map OutboxRecord.path)
      (sortedFiles outbox.directory) := pending ▸ loaded_paths _
  refine ⟨⟨?_, sublist.nodup (sortedFiles_nodup _), fun path listed => known path (keys listed), ?_,
    ?_⟩, ?_⟩
  · intro record listed
    rw [pending] at listed
    obtain ⟨path, -, loads⟩ := List.mem_filterMap.1 listed
    obtain ⟨own, stored⟩ := loadRecord_spec loads
    refine stored.congr (kept record.path (.inl ?_))
    rw [own]
    exact Option.isSome_iff_exists.2 ⟨record, loads⟩
  · rw [bytes, pending]
  · have ordered : ((outbox.loadPending codec io).pending.map OutboxRecord.path).Pairwise
        fun first second => first.timestamp ≤ second.timestamp :=
      (sortedFiles_ordered outbox.directory).sublist sublist
    rw [List.pairwise_map] at ordered
    exact ordered
  · intro record stored
    obtain ⟨loaded, loads, same⟩ := stored.loads reads
    refine ⟨loaded, ?_, same⟩
    rw [pending]
    exact List.mem_filterMap.2 ⟨record.path, mem_sortedFiles.2 stored.listed, loads⟩

end

end DurableOutbox

end OmniMarket.EmitDaemon
