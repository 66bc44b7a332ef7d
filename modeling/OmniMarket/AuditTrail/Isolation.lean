import OmniMarket.AuditTrail.Compactor

/-!
# Isolation of bad audit input

Each line of the dispatch log that makes an entry should count on its own. The handler around the
log ends the reading at the first line whose value is no object or has a field of another type,
and a time without an offset is compared with the window where nothing catches the exception.
-/

namespace OmniMarket.AuditTrail
variable {writer : Option RollupWriter} {command : ModelCompactorCommand}

section

variable (text : AuditText)

/-! ## What the compactor owes -/

def lineEntry (line : String) : Option ModelAuditEntry :=
  match readLine text line with
  | .appended entry => some entry
  | _ => none

def allEntries (files : AuditFiles) : List ModelAuditEntry :=
  readFrictionEntries text files ++ (dispatchLines files).filterMap (lineEntry text)

/-- The entry has a time with an offset, not before the start of the window. -/
def InWindow (cutoff : PyDatetime) (entry : ModelAuditEntry) : Prop :=
  ∃ parsed ∈ parseRecordedAt text entry.recordedAt, cutoff.NotAfter parsed

instance (cutoff : PyDatetime) : DecidablePred (InWindow text cutoff) := fun entry =>
  inferInstanceAs (Decidable (∃ parsed ∈ parseRecordedAt text entry.recordedAt,
    cutoff.NotAfter parsed))

def TimezoneLess (entry : ModelAuditEntry) : Prop :=
  ∃ parsed ∈ parseRecordedAt text entry.recordedAt, parsed.utcOffset = none

/-- The entries that the aggregates are to be made of. -/
def windowEntries (cutoff : PyDatetime) (files : AuditFiles) : List ModelAuditEntry :=
  (allEntries text files).filter fun entry => InWindow text cutoff entry

/-- `handle` returns the aggregates of just the entries of the window. -/
def Isolates (writer : Option RollupWriter) (clock : AuditClock) (command : ModelCompactorCommand)
    (files : AuditFiles) : Prop :=
  ∃ cutoff, windowStart clock.now command.lookbackDays = some cutoff ∧
    handle text writer clock command files =
      some (compact text writer command clock.renderedAt (windowEntries text cutoff files))

/-- The lines up to the first one that stops the reading. -/
def reachedLines (files : AuditFiles) : List String :=
  (dispatchLines files).takeWhile fun line => readLine text line ≠ .stopped

/-- The lines from the first one that stops the reading. -/
def hiddenLines (files : AuditFiles) : List String :=
  (dispatchLines files).dropWhile fun line => readLine text line ≠ .stopped

/-- No time that is read lacks its offset, and no entry of the window is behind a line that stops
the reading. -/
structure WellRead (cutoff : PyDatetime) (files : AuditFiles) : Prop where
  friction : ∀ entry ∈ readFrictionEntries text files, ¬ TimezoneLess text entry
  reached : ∀ line ∈ reachedLines text files, ∀ entry ∈ lineEntry text line,
    ¬ TimezoneLess text entry
  hidden : ∀ line ∈ hiddenLines text files, ∀ entry ∈ lineEntry text line,
    ¬ InWindow text cutoff entry

end

variable {text : AuditText} {cutoff : PyDatetime} {lines : List String} {entry : ModelAuditEntry}

theorem readLines_eq (lines : List String) :
    readLines text lines =
      (lines.takeWhile fun line => readLine text line ≠ .stopped).filterMap (lineEntry text) := by
  induction lines with
  | nil => rfl
  | cons line rest ih =>
    unfold readLines
    rw [List.takeWhile_cons]
    cases read : readLine text line with
    | appended entry =>
      have made : lineEntry text line = some entry := by rw [lineEntry, read]
      rw [if_pos (by simp), List.filterMap_cons_some made, ih]
    | skipped =>
      have nothing : lineEntry text line = none := by rw [lineEntry, read]
      rw [if_pos (by simp), List.filterMap_cons_none nothing, ih]
    | stopped => rw [if_neg (by simp), List.filterMap_nil]

theorem allEntries_eq (files : AuditFiles) :
    allEntries text files =
      (readFrictionEntries text files ++ readDispatchEntries text files) ++
        (hiddenLines text files).filterMap (lineEntry text) := by
  unfold allEntries readDispatchEntries hiddenLines
  rw [readLines_eq, List.append_assoc, ← List.filterMap_append, List.takeWhile_append_dropWhile]

/-! ## The window -/

theorem windowStart_aware {now lookbackDays : ℤ}
    (start : windowStart now lookbackDays = some cutoff) : cutoff.utcOffset = some 0 := by
  unfold windowStart at start
  split_ifs at start
  unfold PyDatetime.astimezoneUtc at start
  split_ifs at start
  exact Option.some.inj start ▸ rfl

theorem inWindow?_eq_none_iff (aware : cutoff.utcOffset = some 0) :
    inWindow? text cutoff entry = none ↔ TimezoneLess text entry := by
  unfold inWindow? TimezoneLess
  cases parseRecordedAt text entry.recordedAt with
  | none => simp
  | some parsed => simp [PyDatetime.Comparable, aware]

theorem inWindow?_eq_some_iff (aware : cutoff.utcOffset = some 0) (kept : Bool) :
    inWindow? text cutoff entry = some kept ↔
      ¬ TimezoneLess text entry ∧ (kept = true ↔ InWindow text cutoff entry) := by
  rw [← inWindow?_eq_none_iff aware]
  unfold inWindow? InWindow
  cases parseRecordedAt text entry.recordedAt with
  | none => simp [eq_comm]
  | some parsed =>
    by_cases comparable : parsed.Comparable cutoff
    · have flipped : cutoff.Comparable parsed := Eq.symm comparable
      cases kept with
      | false => simp [comparable, flipped, PyDatetime.NotAfter]
      | true => simp [comparable, flipped, PyDatetime.NotAfter]
    · simp [comparable]

theorem filterWindow_eq_some_iff (aware : cutoff.utcOffset = some 0)
    {entries kept : List ModelAuditEntry} :
    filterWindow text cutoff entries = some kept ↔
      (∀ entry ∈ entries, ¬ TimezoneLess text entry) ∧
        kept = entries.filter fun entry => InWindow text cutoff entry := by
  induction entries generalizing kept with
  | nil => simp [filterWindow, eq_comm]
  | cons entry rest ih =>
    unfold filterWindow
    rw [List.forall_mem_cons]
    cases window : inWindow? text cutoff entry with
    | none =>
      have naive := (inWindow?_eq_none_iff aware).1 window
      simp [naive]
    | some inside =>
      obtain ⟨zoned, same⟩ := (inWindow?_eq_some_iff aware inside).1 window
      have selected : decide (InWindow text cutoff entry) = inside :=
        Bool.eq_iff_iff.2 (decide_eq_true_iff.trans same.symm)
      rw [List.filter_cons, selected]
      simp only [Option.bind_eq_bind, Option.bind_some]
      constructor
      · intro returned
        obtain ⟨later, others, built⟩ := Option.bind_eq_some_iff.1 returned
        obtain ⟨each, rfl⟩ := ih.1 others
        exact ⟨⟨zoned, each⟩, (Option.some.inj built).symm⟩
      · rintro ⟨⟨-, each⟩, rfl⟩
        exact Option.bind_eq_some_iff.2 ⟨_, ih.2 ⟨each, rfl⟩, rfl⟩

/-! ## The aggregates of the window -/

theorem handle_eq_some_iff {clock : AuditClock} {files : AuditFiles} {result : ModelCompactorResult}
    (start : windowStart clock.now command.lookbackDays = some cutoff) :
    handle text writer clock command files = some result ↔
      (∀ entry ∈ readFrictionEntries text files ++ readDispatchEntries text files,
        ¬ TimezoneLess text entry) ∧
      result = compact text writer command clock.renderedAt
        ((readFrictionEntries text files ++ readDispatchEntries text files).filter fun entry =>
          InWindow text cutoff entry) := by
  have aware := windowStart_aware start
  unfold handle
  simp only [start, Option.bind_eq_bind, Option.bind_some]
  constructor
  · intro returned
    obtain ⟨kept, filtered, made⟩ := Option.bind_eq_some_iff.1 returned
    obtain ⟨zoned, rfl⟩ := (filterWindow_eq_some_iff aware).1 filtered
    exact ⟨zoned, (Option.some.inj made).symm⟩
  · rintro ⟨zoned, rfl⟩
    exact Option.bind_eq_some_iff.2 ⟨_, (filterWindow_eq_some_iff aware).2 ⟨zoned, rfl⟩, rfl⟩

theorem compact_window_eq_iff {renderedAt : ℤ} {read hidden : List ModelAuditEntry} :
    compact text writer command renderedAt (read ++ hidden) =
      compact text writer command renderedAt read ↔ hidden = [] := by
  constructor
  · intro same
    have lengths := congrArg ModelCompactorResult.totalEntries same
    simp only [compact, List.length_append] at lengths
    exact List.eq_nil_of_length_eq_zero (by omega)
  · rintro rfl
    rw [List.append_nil]

/-- For every log and every friction directory, the compactor isolates bad input just where no
time without an offset is read and nothing of the window is hidden. -/
theorem isolates_iff (text : AuditText) (writer : Option RollupWriter) (clock : AuditClock)
    (command : ModelCompactorCommand) (files : AuditFiles) :
    Isolates text writer clock command files ↔
      ∃ cutoff, windowStart clock.now command.lookbackDays = some cutoff ∧
        WellRead text cutoff files := by
  refine exists_congr fun cutoff => and_congr_right fun start => ?_
  rw [handle_eq_some_iff start, windowEntries, allEntries_eq, List.filter_append,
    compact_window_eq_iff, List.forall_mem_append]
  have reached : readDispatchEntries text files =
      (reachedLines text files).filterMap (lineEntry text) := readLines_eq _
  constructor
  · rintro ⟨⟨friction, dispatch⟩, nothing⟩
    refine ⟨friction, fun line listed entry made => ?_, fun line listed entry made => ?_⟩
    · rw [reached] at dispatch
      exact dispatch entry (List.mem_filterMap.2 ⟨line, listed, made⟩)
    · have outside := List.filter_eq_nil_iff.1 nothing entry
        (List.mem_filterMap.2 ⟨line, listed, made⟩)
      simpa using outside
  · intro wellRead
    refine ⟨⟨wellRead.friction, fun entry listed => ?_⟩, ?_⟩
    · rw [reached] at listed
      obtain ⟨line, among, made⟩ := List.mem_filterMap.1 listed
      exact wellRead.reached line among entry made
    · refine List.filter_eq_nil_iff.2 fun entry listed => ?_
      obtain ⟨line, among, made⟩ := List.mem_filterMap.1 listed
      simpa using wellRead.hidden line among entry made

/-! ## A hidden entry -/

def failureLine : String :=
  "\x7b\"outcome\": \"failure\", \"error\": \"timed out\", " ++
    "\"timestamp\": \"2026-03-01T00:00:00Z\"\x7d"

/-- The moment of the sample: 2 March 2026 at midnight. -/
def sampleNow : ℤ := 1772409600000000

def sampleText : AuditText where
  unicode := PyText.asciiTable
  jsonLoads line :=
    if line = "null" then .value .none
    else if line = failureLine then
      .value (.dict [("outcome", .str "failure"), ("error", .str "timed out"),
        ("timestamp", .str "2026-03-01T00:00:00Z")])
    else .malformed "Expecting value"
  str _ := ""
  fromisoformat time :=
    if time = "2026-03-01T00:00:00+00:00" then some ⟨sampleNow - 86400000000, some 0⟩ else none
  isoformat _ := ""

def hiddenFailure : AuditFiles := ⟨none, some ["null", failureLine]⟩

theorem null_line_hides_entry :
    ¬ Isolates sampleText none ⟨sampleNow, sampleNow⟩ {} hiddenFailure := by
  rintro ⟨cutoff, start, returned⟩
  have fixed : windowStart sampleNow 7 = some ⟨sampleNow - 604800000000, some 0⟩ := by
    decide +kernel
  rw [show cutoff = ⟨sampleNow - 604800000000, some 0⟩ from
    Option.some.inj (start.symm.trans fixed)] at returned
  have counted := congrArg (Option.map ModelCompactorResult.totalEntries) returned
  revert counted
  decide +kernel

end OmniMarket.AuditTrail
