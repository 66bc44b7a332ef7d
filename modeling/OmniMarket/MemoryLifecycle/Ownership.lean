import OmniMarket.MemoryLifecycle.Commands

/-!
# Who owns an archive file
-/

namespace OmniMarket.MemoryLifecycle

variable {α ε : Type} [DecidableEq α] [DecidableEq ε]
  {rows rows' : Table} {memoryId : String} {path : String}

/-! ## The property and its condition -/

inductive Moves : ModelMemoryRow → ModelMemoryRow → Prop where
  | expire {row : ModelMemoryRow} (active : row.lifecycleState = .active) :
      Moves row row.toExpired
  | archive {row : ModelMemoryRow} (expired : row.lifecycleState = .expired) (path : String) :
      Moves row (row.toArchived path)

/-- Each row stays as it is or makes one transition. -/
def MovesOnly (before after : Table) : Prop :=
  ∀ memoryId, after memoryId = before memoryId ∨
    ∃ row row', before memoryId = some row ∧ after memoryId = some row' ∧ Moves row row'

def ArchivedAt (rows : Table) (path : String) : Prop :=
  ∃ memoryId row, rows memoryId = some row ∧ row.lifecycleState = .archived ∧
    row.archivePath = some path

def Reports (path : String) : Shown → Prop
  | .nothing => False
  | .trackOrphan _ archivePath _ => archivePath = path
  | .archived result => result.orphaned = true ∧ result.archivePath = some path

instance (path : String) (shown : Shown) : Decidable (Reports path shown) :=
  match shown with
  | .nothing => .isFalse id
  | .trackOrphan _ archivePath _ => inferInstanceAs (Decidable (archivePath = path))
  | .archived result =>
    inferInstanceAs (Decidable (result.orphaned = true ∧ result.archivePath = some path))

/-- The server has run the update of an archive command, and it matched. -/
def Committed (state : State α ε) (i : α) : Prop := (state.archives i).update = .executed true

abbrev History (α ε : Type) := List (Trace.Transition (State α ε) (Event α ε) Shown)

def history (commands : Commands α ε) (storage : Storage) (events : List (Event α ε)) :
    History α ε :=
  Trace.run (step commands) (initial storage) events

structure NeverDisowns (commands : Commands α ε) (history : History α ε) : Prop where
  moves : ∀ t ∈ history, MovesOnly t.before.storage.rows t.after.storage.rows
  once : ∀ t ∈ history, ∀ i j, Committed t.after i → Committed t.after j →
    (commands.archive i).memoryId = (commands.archive j).memoryId → i = j
  owned : ∀ t ∈ history, ∀ path, Reports path t.output → ¬ ArchivedAt t.after.storage.rows path

/-- The acts on which a run gives its file up: the update missed or its answer is lost, or the
tracker answers. -/
def GivesUp (run : ArchiveRun) : ArchiveAct → Prop
  | .reply failure => (∃ bytesWritten, run.pc = .marking bytesWritten) ∧
      (failure.isSome ∨ run.update = .executed false)
  | .tracked failure => ∃ bytesWritten error, run.pc = .tracking bytesWritten error ∧
      (failure = none ∨ ∃ raised, failure = some (.database raised) ∧ error = none)
  | _ => False

/-- The file of the run is no live archive. -/
structure Stray (storage : Storage) (state : State α ε) (i : α) (path : String) : Prop where
  /-- The update whose answer was lost did not match. -/
  own : ¬ Committed state i
  others : ∀ j ≠ i, (state.archives j).path = some path → ¬ Committed state j
  /-- No memory was archived with the path from the start. -/
  unarchived : ¬ ArchivedAt storage.rows path

/-- Only stray files are given up. -/
def ReportsStray (storage : Storage) (history : History α ε) : Prop :=
  ∀ t ∈ history, ∀ i act, t.event = .archive i act → GivesUp (t.before.archives i) act →
    ∀ path, (t.before.archives i).path = some path → Stray storage t.before i path

/-! ## One act -/

variable {handler : HandlerMemoryArchive} {command : ModelArchiveMemoryCommand}
  {storage storage' : Storage} {run run' : ArchiveRun} {shown : Shown}

def Fresh (run : ArchiveRun) : Prop :=
  (run.pc = .start ∨ run.pc = .reading ∨ ∃ record, run.pc = .writing record) →
    run.update = .unissued

/-- An act that leaves the rows and what the server knows of the update. -/
structure Keeps (storage : Storage) (run : ArchiveRun) (after : Storage × ArchiveRun) : Prop where
  rows : after.1.rows = storage.rows
  fresh : Fresh after.2
  committed : after.2.update = .executed true ↔ run.update = .executed true
  path : run.update = .executed true → after.2.path = run.path

structure Commits (command : ModelArchiveMemoryCommand) (storage : Storage)
    (after : Storage × ArchiveRun) : Prop where
  fresh : Fresh after.2
  committed : after.2.update = .executed true
  moved : ∃ path row, after.2.path = some path ∧ storage.rows command.memoryId = some row ∧
    row.lifecycleState = .expired ∧
    after.1.rows = Function.update storage.rows command.memoryId (some (row.toArchived path))

theorem guardedUpdate_cases {revision : ℤ} {required : EnumLifecycleState}
    {set : ModelMemoryRow → ModelMemoryRow} {matched : Bool}
    (ran : guardedUpdate rows memoryId revision required set = (rows', matched)) :
    (rows' = rows ∧ matched = false) ∨
      ∃ row, rows memoryId = some row ∧ row.lifecycleState = required ∧ matched = true ∧
        rows' = Function.update rows memoryId (some (set row)) := by
  rw [guardedUpdate] at ran
  split at ran
  · cases ran
    exact .inl ⟨rfl, rfl⟩
  · next row found =>
    split at ran
    · next guard =>
      cases ran
      exact .inr ⟨row, found, guard.2, rfl, rfl⟩
    · cases ran
      exact .inl ⟨rfl, rfl⟩

theorem keeps_of_same (rows : storage'.rows = storage.rows) (update : run'.update = run.update)
    (path : run'.path = run.path) (fresh : Fresh run') : Keeps storage run (storage', run') :=
  ⟨rows, fresh, by rw [update], fun _ => path⟩

theorem reportOrphan_keeps (run : ArchiveRun) (path : String) (bytesWritten : ℕ)
    (error : Option DatabaseError) :
    Keeps storage run (storage, (run.reportOrphan handler command path bytesWritten error).1) := by
  rw [ArchiveRun.reportOrphan]
  split
  · exact keeps_of_same rfl rfl rfl (by simp [Fresh])
  · exact keeps_of_same rfl rfl rfl (by simp [Fresh, ArchiveRun.finish])

theorem finish_keeps (run : ArchiveRun) (result : ModelMemoryArchiveResult) :
    Keeps storage run (storage, (run.finish result).1) :=
  keeps_of_same rfl rfl rfl (by simp [Fresh, ArchiveRun.finish])

theorem afterRead_keeps (row : Option ModelMemoryRow) (reading : run.pc = .reading)
    (fresh : Fresh run) : Keeps storage run (storage, (afterRead command row run).1) := by
  have unissued := fresh (.inr (.inl reading))
  unfold afterRead
  split
  · exact finish_keeps _ _
  · split
    · exact finish_keeps _ _
    · split
      · exact finish_keeps _ _
      · exact keeps_of_same rfl rfl rfl fun _ => unissued

variable {act : ArchiveAct}

section

variable (fresh : Fresh run)

include fresh

theorem stays : Keeps storage run (storage, run) := keeps_of_same rfl rfl rfl fresh

theorem begin_keeps (now : Date) (allowed : Bool) :
    Keeps storage run (archiveStep handler command storage run (.begin now allowed)).1 := by
  rw [archiveStep]
  split
  · next start =>
    have unissued := fresh (.inl start)
    split
    · exact keeps_of_same rfl rfl rfl fun _ => unissued
    · exact keeps_of_same rfl rfl rfl (by simp [Fresh, ArchiveRun.finish])
  · exact stays fresh

theorem read_keeps (failure : Option ReadError) :
    Keeps storage run (archiveStep handler command storage run (.read failure)).1 := by
  simp only [archiveStep]
  split
  · next reading =>
    cases failure with
    | some error => exact finish_keeps _ _
    | none => exact afterRead_keeps _ reading fresh
  · exact stays fresh

theorem write_keeps (rejected : Option String) (written : Except String ℕ) :
    Keeps storage run (archiveStep handler command storage run (.write rejected written)).1 := by
  rw [archiveStep]
  split
  · next record writing =>
    have unissued := fresh (.inr (.inr ⟨record, writing⟩))
    dsimp only
    split
    · exact finish_keeps _ _
    · exact finish_keeps _ _
    · exact ⟨rfl, by simp [Fresh], by simp [unissued], by simp [unissued]⟩
  · exact stays fresh

theorem execute_cases :
    Keeps storage run (archiveStep handler command storage run .execute).1 ∨
      run.update = .issued ∧ (archiveStep handler command storage run .execute).2 = .nothing ∧
        Commits command storage (archiveStep handler command storage run .execute).1 := by
  simp only [archiveStep]
  split
  · next path issued named =>
    have late : ∀ matched, Fresh { run with update := .executed matched } := by
      intro matched early
      have unissued := fresh early
      rw [issued] at unissued
      cases unissued
    rcases guardedUpdate_cases (Prod.mk.eta.symm : markArchived storage.rows command path = _)
      with ⟨same, missed⟩ | ⟨row, found, expired, matched, moved⟩
    · rw [same, missed]
      exact .inl ⟨rfl, late false, by simp [issued], fun _ => rfl⟩
    · rw [matched, moved]
      exact .inr ⟨issued, rfl, late true, rfl, path, row, named, found, expired, rfl⟩
  · exact .inl (stays fresh)

theorem reply_keeps (failure : Option DatabaseError) :
    Keeps storage run (archiveStep handler command storage run (.reply failure)).1 := by
  rw [archiveStep]
  split
  · split
    · exact reportOrphan_keeps _ _ _ _
    · exact finish_keeps _ _
    · exact reportOrphan_keeps _ _ _ _
    · exact stays fresh
  · exact stays fresh

theorem tracked_keeps (failure : Option TrackerError) :
    Keeps storage run (archiveStep handler command storage run (.tracked failure)).1 := by
  rw [archiveStep]
  split
  · split
    · exact finish_keeps _ _
    · exact reportOrphan_keeps _ _ _ _
    · exact keeps_of_same rfl rfl rfl (by simp [Fresh])
    · exact keeps_of_same rfl rfl rfl (by simp [Fresh])
  · exact stays fresh

theorem archiveStep_cases (act : ArchiveAct) :
    Keeps storage run (archiveStep handler command storage run act).1 ∨
      run.update = .issued ∧ (archiveStep handler command storage run act).2 = .nothing ∧
        Commits command storage (archiveStep handler command storage run act).1 := by
  cases act with
  | begin now allowed => exact .inl (begin_keeps fresh now allowed)
  | read failure => exact .inl (read_keeps fresh failure)
  | write rejected written => exact .inl (write_keeps fresh rejected written)
  | execute => exact execute_cases fresh
  | reply failure => exact .inl (reply_keeps fresh failure)
  | unreadable status =>
    rw [archiveStep]
    split
    · exact .inl (keeps_of_same rfl rfl rfl (by simp [Fresh]))
    · exact .inl (stays fresh)
  | tracked failure => exact .inl (tracked_keeps fresh failure)

end

/-! ## What an act reports -/

variable {path path' : String}

theorem orphanResult_reports {bytesWritten : ℕ} {error : Option DatabaseError} :
    Reports path (.archived (orphanResult command path' bytesWritten error)) ↔ path' = path := by
  cases error <;> simp [Reports, orphanResult]

theorem reportOrphan_reports {bytesWritten : ℕ} {error : Option DatabaseError} :
    Reports path (run.reportOrphan handler command path' bytesWritten error).2 ↔ path' = path := by
  unfold ArchiveRun.reportOrphan
  cases handler.orphanTracker with
  | true => exact Iff.rfl
  | false => exact orphanResult_reports

theorem afterRead_quiet (row : Option ModelMemoryRow) :
    ¬ Reports path (afterRead command row run).2 := by
  unfold afterRead
  split
  · simp [Reports, ArchiveRun.finish, archiveFailure]
  · split_ifs <;> simp [Reports, ArchiveRun.finish, archiveFailure]

theorem archiveStep_reports :
    Reports path (archiveStep handler command storage run act).2 ↔
      GivesUp run act ∧ run.path = some path := by
  cases act with
  | begin now allowed =>
    simp only [archiveStep]
    split_ifs <;> simp [Reports, GivesUp, ArchiveRun.finish, archiveFailure]
  | read failure =>
    simp only [archiveStep]
    split_ifs
    · cases failure with
      | some error => simp [Reports, GivesUp, ArchiveRun.finish, archiveFailure]
      | none => simp [GivesUp, afterRead_quiet]
    · simp [Reports, GivesUp]
  | write rejected written =>
    simp only [archiveStep]
    split
    · split <;> simp [Reports, GivesUp, ArchiveRun.finish, archiveFailure]
    · simp [Reports, GivesUp]
  | execute =>
    simp only [archiveStep]
    split <;> simp [Reports, GivesUp]
  | reply failure =>
    simp only [archiveStep]
    split
    · next bytesWritten own marking named =>
      split
      · simp [reportOrphan_reports, GivesUp, marking, named]
      · next matched => simp [Reports, GivesUp, ArchiveRun.finish, archiveSuccess, matched]
      · next missed => simp [reportOrphan_reports, GivesUp, marking, named, missed]
      · next unmatched unmissed =>
        simp only [Reports, GivesUp, false_iff]
        rintro ⟨⟨-, lost | missed⟩, -⟩
        · cases lost
        · exact unmissed missed
    · next elsewhere =>
      simp only [Reports, GivesUp, false_iff]
      rintro ⟨⟨⟨bytesWritten, marking⟩, -⟩, named⟩
      exact elsewhere bytesWritten path marking named
  | unreadable status =>
    simp only [archiveStep]
    split <;> simp [Reports, GivesUp]
  | tracked failure =>
    simp only [archiveStep]
    split
    · next bytesWritten error own tracking named =>
      split
      · simp [ArchiveRun.finish, orphanResult_reports, GivesUp, tracking, named]
      · simp [reportOrphan_reports, GivesUp, tracking, named]
      · simp [Reports, GivesUp, tracking]
      · simp [Reports, GivesUp, tracking]
    · next elsewhere =>
      simp only [Reports, GivesUp, false_iff]
      rintro ⟨⟨bytesWritten, error, tracking, -⟩, named⟩
      exact elsewhere bytesWritten error path tracking named

theorem expireStep_cases {command : ModelExpireMemoryCommand} {run run' : ExpireRun}
    {act : ExpireAct} (stepped : expireStep command rows run act = (rows', run')) :
    rows' = rows ∨ ∃ row, rows command.memoryId = some row ∧ row.lifecycleState = .active ∧
      rows' = Function.update rows command.memoryId (some row.toExpired) := by
  cases act with
  | execute =>
    rw [expireStep] at stepped
    split at stepped
    · dsimp only at stepped
      rcases guardedUpdate_cases (Prod.mk.eta.symm : markExpired rows command = _)
        with ⟨same, -⟩ | ⟨row, found, active, -, moved⟩
      · exact .inl ((congrArg Prod.fst stepped).symm.trans same)
      · exact .inr ⟨row, found, active, (congrArg Prod.fst stepped).symm.trans moved⟩
    · cases stepped
      exact .inl rfl
  | begin allowed =>
    rw [expireStep] at stepped
    split at stepped
    · split at stepped
      · cases stepped
        exact .inl rfl
      · cases stepped
        exact .inl rfl
    · cases stepped
      exact .inl rfl
  | reply failure | diagnose failure =>
    unfold expireStep at stepped
    dsimp only at stepped
    split at stepped
    · split at stepped
      all_goals
        cases stepped
        exact .inl rfl
    · cases stepped
      exact .inl rfl

/-! ## All commands -/

variable {commands : Commands α ε} {state state' : State α ε} {event : Event α ε}
  {start : Storage} {events : List (Event α ε)}

inductive Effect (commands : Commands α ε) (state state' : State α ε) (shown : Shown) : Prop where
  | keeps (rows : state'.storage.rows = state.storage.rows)
      (committed : ∀ i, Committed state' i ↔ Committed state i)
      (paths : ∀ i, Committed state i → (state'.archives i).path = (state.archives i).path)
  | archives (quiet : shown = .nothing) (i : α) (pending : ¬ Committed state i)
      (moved : Commits (commands.archive i) state.storage (state'.storage, state'.archives i))
      (others : ∀ j ≠ i, state'.archives j = state.archives j)
  | expires (quiet : shown = .nothing) (same : state'.archives = state.archives)
      (memoryId : String) (row : ModelMemoryRow) (found : state.storage.rows memoryId = some row)
      (active : row.lifecycleState = .active)
      (moved : state'.storage.rows = Function.update state.storage.rows memoryId (some row.toExpired))

theorem step_effect (fresh : ∀ i, Fresh (state.archives i))
    (stepped : step commands state event = (state', shown)) :
    Effect commands state state' shown ∧ ∀ i, Fresh (state'.archives i) := by
  cases event with
  | archive i act =>
    cases moved : archiveStep commands.handler (commands.archive i) state.storage
      (state.archives i) act with
    | mk after shown' =>
      obtain ⟨storage', run'⟩ := after
      have next : state' = ⟨storage', Function.update state.archives i run', state.expires⟩ := by
        rw [step, moved] at stepped
        exact (congrArg Prod.fst stepped).symm
      have output : shown' = shown := by
        rw [step, moved] at stepped
        exact congrArg Prod.snd stepped
      subst next output
      have own : Function.update state.archives i run' i = run' := Function.update_self ..
      have others : ∀ j ≠ i, Function.update state.archives i run' j = state.archives j :=
        fun j differs => Function.update_of_ne differs _ _
      have freshAll (freshOwn : Fresh run') :
          ∀ j, Fresh (Function.update state.archives i run' j) := by
        intro j
        by_cases same : j = i
        · subst same
          rwa [own]
        · rw [others j same]
          exact fresh j
      have acted := @archiveStep_cases commands.handler (commands.archive i) state.storage _
        (fresh i) act
      rw [moved] at acted
      rcases acted with keeps | ⟨issued, quiet, commits⟩
      · refine ⟨.keeps keeps.rows ?_ ?_, freshAll keeps.fresh⟩
        · intro j
          by_cases same : j = i
          · subst same
            simp only [Committed, own]
            exact keeps.committed
          · simp only [Committed, others j same]
        · intro j committed
          by_cases same : j = i
          · subst same
            simp only [own]
            exact keeps.path committed
          · simp only [others j same]
      · refine ⟨.archives quiet i ?_ ?_ others, freshAll commits.fresh⟩
        · intro committed
          rw [Committed, issued] at committed
          cases committed
        · dsimp only
          rwa [own]
  | expire i act =>
    cases moved : expireStep (commands.expire i) state.storage.rows (state.expires i) act with
    | mk rows' run' =>
      rw [step, moved] at stepped
      cases stepped
      refine ⟨?_, fresh⟩
      rcases expireStep_cases moved with rfl | ⟨row, found, active, rfl⟩
      · exact .keeps rfl (fun _ => Iff.rfl) fun _ _ => rfl
      · exact .expires rfl rfl _ row found active rfl

theorem archived_kept {row : ModelMemoryRow} {next : Option ModelMemoryRow}
    (found : rows memoryId = some row) (live : row.lifecycleState ≠ .archived)
    (moved : rows' = Function.update rows memoryId next) {other : String} {held : ModelMemoryRow}
    (there : rows other = some held) (archived : held.lifecycleState = .archived) :
    rows' other = some held := by
  rw [moved, Function.update_of_ne, there]
  rintro rfl
  rw [found] at there
  cases there
  exact live archived

structure Owned (commands : Commands α ε) (start : Storage) (state : State α ε) : Prop where
  fresh : ∀ i, Fresh (state.archives i)
  own : ∀ i, Committed state i → ∃ path row, (state.archives i).path = some path ∧
    state.storage.rows (commands.archive i).memoryId = some row ∧
    row.lifecycleState = .archived ∧ row.archivePath = some path
  held : ∀ memoryId row, start.rows memoryId = some row → row.lifecycleState = .archived →
    state.storage.rows memoryId = some row
  origin : ∀ memoryId row path, state.storage.rows memoryId = some row →
    row.lifecycleState = .archived → row.archivePath = some path →
    ArchivedAt start.rows path ∨ ∃ i, (state.archives i).path = some path ∧ Committed state i
  once : ∀ i j, Committed state i → Committed state j →
    (commands.archive i).memoryId = (commands.archive j).memoryId → i = j

omit [DecidableEq α] [DecidableEq ε] in
theorem owned_initial (start : Storage) : Owned commands start (initial start) := by
  refine ⟨fun i _ => rfl, ?_, fun _ _ found _ => found, ?_, ?_⟩
  · intro i committed
    cases committed
  · intro memoryId row path found archived named
    exact .inl ⟨memoryId, row, found, archived, named⟩
  · intro i j committed
    cases committed

section

variable (owned : Owned commands start state) (fresh : ∀ i, Fresh (state'.archives i))

include owned fresh

omit [DecidableEq α] [DecidableEq ε] in
theorem Owned.keeps (rows : state'.storage.rows = state.storage.rows)
    (committed : ∀ i, Committed state' i ↔ Committed state i)
    (paths : ∀ i, Committed state i → (state'.archives i).path = (state.archives i).path) :
    Owned commands start state' := by
  refine ⟨fresh, ?_, ?_, ?_, ?_⟩
  · intro i own
    have before := (committed i).1 own
    rw [paths i before, rows]
    exact owned.own i before
  · rw [rows]
    exact owned.held
  · rw [rows]
    intro memoryId row path found archived named
    refine (owned.origin memoryId row path found archived named).imp_right ?_
    rintro ⟨i, own, before⟩
    exact ⟨i, (paths i before).trans own, (committed i).2 before⟩
  · intro i j first second
    exact owned.once i j ((committed i).1 first) ((committed j).1 second)

omit [DecidableEq α] [DecidableEq ε] in
theorem Owned.expires (same : state'.archives = state.archives)
    {row : ModelMemoryRow} (found : state.storage.rows memoryId = some row)
    (active : row.lifecycleState = .active)
    (moved : state'.storage.rows = Function.update state.storage.rows memoryId (some row.toExpired)) :
    Owned commands start state' := by
  -- the row that moves was active, so that no archived row moves
  have live : row.lifecycleState ≠ .archived := by simp [active]
  have committed : ∀ i, Committed state' i ↔ Committed state i := by
    intro i
    rw [Committed, Committed, same]
  refine ⟨fresh, ?_, ?_, ?_, ?_⟩
  · intro i own
    obtain ⟨path, held, named, there, archived, at'⟩ := owned.own i ((committed i).1 own)
    exact ⟨path, held, same ▸ named, archived_kept found live moved there archived, archived,
      at'⟩
  · intro other held there archived
    exact archived_kept found live moved (owned.held other held there archived) archived
  · intro other held path there archived named
    rw [moved] at there
    by_cases here : other = memoryId
    · subst here
      rw [Function.update_self] at there
      cases there
      cases archived
    · rw [Function.update_of_ne here] at there
      refine (owned.origin other held path there archived named).imp_right ?_
      rintro ⟨i, own, before⟩
      exact ⟨i, same ▸ own, (committed i).2 before⟩
  · intro i j first second
    exact owned.once i j ((committed i).1 first) ((committed j).1 second)

omit [DecidableEq ε] in
theorem Owned.archives {i : α} (pending : ¬ Committed state i)
    (commits : Commits (commands.archive i) state.storage (state'.storage, state'.archives i))
    (others : ∀ j ≠ i, state'.archives j = state.archives j) : Owned commands start state' := by
  obtain ⟨-, committedOwn, path, row, named, found, expired, moved⟩ := commits
  have live : row.lifecycleState ≠ .archived := by simp [expired]
  -- a command that has archived the memory before cannot share it
  have fresh' : ∀ j, Committed state j →
      (commands.archive j).memoryId ≠ (commands.archive i).memoryId := by
    intro j before same
    obtain ⟨-, held, -, there, archived, -⟩ := owned.own j before
    rw [same, found] at there
    cases there
    rw [expired] at archived
    cases archived
  have before : ∀ j ≠ i, Committed state' j → Committed state j := by
    intro j differs committed
    rwa [Committed, others j differs] at committed
  refine ⟨fresh, ?_, ?_, ?_, ?_⟩
  · intro j own
    by_cases same : j = i
    · subst same
      exact ⟨path, _, named, by rw [moved, Function.update_self], rfl, rfl⟩
    · obtain ⟨path', held, named', there, archived, at'⟩ := owned.own j (before j same own)
      exact ⟨path', held, (congrArg _ (others j same)).trans named',
        archived_kept found live moved there archived, archived, at'⟩
  · intro other held there archived
    exact archived_kept found live moved (owned.held other held there archived) archived
  · intro other held path' there archived named'
    rw [moved] at there
    by_cases here : other = (commands.archive i).memoryId
    · subst here
      rw [Function.update_self] at there
      cases there
      exact .inr ⟨i, named.trans named', committedOwn⟩
    · rw [Function.update_of_ne here] at there
      refine (owned.origin other held path' there archived named').imp_right ?_
      rintro ⟨j, own, committed⟩
      have differs : j ≠ i := by
        rintro rfl
        exact pending committed
      exact ⟨j, (congrArg _ (others j differs)).trans own,
        (congrArg ArchiveRun.update (others j differs)).trans committed⟩
  · intro j k first second same
    by_cases own : j = i
    · by_cases own' : k = i
      · exact own.trans own'.symm
      · subst own
        exact absurd same.symm (fresh' k (before k own' second))
    · by_cases own' : k = i
      · subst own'
        exact absurd same (fresh' j (before j own first))
      · exact owned.once j k (before j own first) (before k own' second) same

end

theorem Owned.step (owned : Owned commands start state)
    (stepped : step commands state event = (state', shown)) : Owned commands start state' := by
  obtain ⟨effect, fresh⟩ := step_effect owned.fresh stepped
  cases effect with
  | keeps rows committed paths => exact owned.keeps fresh rows committed paths
  | archives quiet i pending commits others => exact owned.archives fresh pending commits others
  | expires quiet same memoryId row found active moved =>
    exact owned.expires fresh same found active moved

theorem history_owned : ∀ t ∈ history commands start events,
    Owned commands start t.before ∧ Owned commands start t.after := by
  have kept : ∀ t ∈ history commands start events, Owned commands start t.before →
      Owned commands start t.after :=
    fun t taken owned => owned.step (Trace.run_steps taken)
  obtain ⟨-, throughout⟩ := Trace.run_invariant (owned_initial start) kept
  exact fun t taken => ⟨throughout t taken, kept t taken (throughout t taken)⟩

/-! ## Results -/

theorem history_moves : ∀ t ∈ history commands start events,
    MovesOnly t.before.storage.rows t.after.storage.rows := by
  intro t taken
  obtain ⟨effect, -⟩ := step_effect (history_owned t taken).1.fresh (Trace.run_steps taken)
  have one : ∀ memoryId row row', t.before.storage.rows memoryId = some row → Moves row row' →
      t.after.storage.rows = Function.update t.before.storage.rows memoryId (some row') →
      MovesOnly t.before.storage.rows t.after.storage.rows := by
    intro memoryId row row' found moves moved other
    by_cases here : other = memoryId
    · subst here
      exact .inr ⟨row, row', found, by rw [moved, Function.update_self], moves⟩
    · exact .inl (by rw [moved, Function.update_of_ne here])
  cases effect with
  | keeps rows committed paths => exact fun memoryId => .inl (congrFun rows memoryId)
  | archives quiet i pending commits others =>
    obtain ⟨-, -, path, row, -, found, expired, moved⟩ := commits
    exact one _ row _ found (.archive expired path) moved
  | expires quiet same memoryId row found active moved =>
    exact one memoryId row _ found (.expire active) moved

theorem archived_once : ∀ t ∈ history commands start events, ∀ i j,
    Committed t.after i → Committed t.after j →
    (commands.archive i).memoryId = (commands.archive j).memoryId → i = j :=
  fun t taken => (history_owned t taken).2.once

omit [DecidableEq α] [DecidableEq ε] in
theorem archivedAt_iff (owned : Owned commands start state) :
    ArchivedAt state.storage.rows path ↔ ArchivedAt start.rows path ∨
      ∃ i, (state.archives i).path = some path ∧ Committed state i := by
  constructor
  · rintro ⟨memoryId, row, found, archived, named⟩
    exact owned.origin memoryId row path found archived named
  · rintro (⟨memoryId, row, found, archived, named⟩ | ⟨i, named, committed⟩)
    · exact ⟨memoryId, row, owned.held memoryId row found archived, archived, named⟩
    · obtain ⟨path', row, own, found, archived, at'⟩ := owned.own i committed
      obtain rfl : path' = path := Option.some.inj (own.symm.trans named)
      exact ⟨_, row, found, archived, at'⟩

theorem reports_rows {t : Trace.Transition (State α ε) (Event α ε) Shown}
    (taken : t ∈ history commands start events) (reports : Reports path t.output) :
    t.after.storage.rows = t.before.storage.rows := by
  obtain ⟨effect, -⟩ := step_effect (history_owned t taken).1.fresh (Trace.run_steps taken)
  cases effect with
  | keeps rows committed paths => exact rows
  | archives quiet i pending commits others =>
    rw [quiet] at reports
    exact reports.elim
  | expires quiet same memoryId row found active moved =>
    rw [quiet] at reports
    exact reports.elim

theorem step_reports : Reports path (step commands state event).2 ↔
    ∃ i act, event = .archive i act ∧ GivesUp (state.archives i) act ∧
      (state.archives i).path = some path := by
  cases event with
  | archive i act =>
    refine archiveStep_reports.trans ⟨fun given => ⟨i, act, rfl, given⟩, ?_⟩
    rintro ⟨i, act, ⟨⟩, given⟩
    exact given
  | expire i act => exact ⟨False.elim, nofun⟩

omit [DecidableEq α] [DecidableEq ε] in
theorem stray_iff (owned : Owned commands start state) {i : α}
    (named : (state.archives i).path = some path) :
    Stray start state i path ↔ ¬ ArchivedAt state.storage.rows path := by
  rw [archivedAt_iff owned, not_or, not_exists]
  constructor
  · rintro ⟨own, others, unarchived⟩
    refine ⟨unarchived, fun j ⟨named', committed⟩ => ?_⟩
    by_cases same : j = i
    · exact own (same ▸ committed)
    · exact others j same named' committed
  · rintro ⟨unarchived, uncommitted⟩
    exact ⟨fun committed => uncommitted i ⟨named, committed⟩,
      fun j _ named' committed => uncommitted j ⟨named', committed⟩, unarchived⟩

/-- No live archive is reported as an orphan exactly when the commands only give up stray
files. -/
theorem neverDisowns_iff (commands : Commands α ε) (start : Storage) (events : List (Event α ε)) :
    NeverDisowns commands (history commands start events) ↔
      ReportsStray start (history commands start events) := by
  have shown : ∀ t ∈ history commands start events, t.output = (step commands t.before t.event).2 :=
    fun t taken => (congrArg Prod.snd (Trace.run_steps taken)).symm
  constructor
  · intro never t taken i act acts gives path named
    have reports : Reports path t.output := by
      rw [shown t taken]
      exact step_reports.2 ⟨i, act, acts, gives, named⟩
    rw [stray_iff (history_owned t taken).1 named, ← reports_rows taken reports]
    exact never.owned t taken path reports
  · intro stray
    refine ⟨history_moves, archived_once, fun t taken path reports => ?_⟩
    rw [reports_rows taken reports]
    rw [shown t taken] at reports
    obtain ⟨i, act, acts, gives, named⟩ := step_reports.1 reports
    exact (stray_iff (history_owned t taken).1 named).1 (stray t taken i act acts gives path named)

/-! ## Two commands for one memory -/

/-- Two archive commands for one memory and one revision, with the default path. -/
def twoArchives : Commands Bool Empty where
  handler := ⟨"/archives", false⟩
  archive _ := ⟨"m", 5, none⟩
  expire := Empty.elim

def expiredMemory : Storage where
  rows := fun memoryId => if memoryId = "m" then some ⟨"text", .expired, 5, none⟩ else none
  files _ := none

/-- Both commands read the memory and write its file, before either updates the row. -/
def bothWrite : List (Event Bool Empty) :=
  [.archive false (.begin ⟨2026, 1, 25⟩ true), .archive true (.begin ⟨2026, 1, 25⟩ true),
    .archive false (.read none), .archive true (.read none),
    .archive false (.write none (.ok 10)), .archive true (.write none (.ok 10)),
    .archive false .execute, .archive true .execute,
    .archive false (.reply none), .archive true (.reply none)]

/-- The second command misses its revision and reports the file of the first one as an orphan. -/
theorem second_archive_disowns :
    ¬ NeverDisowns twoArchives (history twoArchives expiredMemory bothWrite) := by
  intro never
  have last : bothWrite = bothWrite.take 9 ++ .archive true (.reply none) :: [] := by rfl
  have reports : Reports "/archives/2026/01/25/m.jsonl.gz" (step twoArchives
      (Trace.final (step twoArchives) (initial expiredMemory) (bothWrite.take 9))
      (.archive true (.reply none))).2 := by
    decide +kernel
  refine never.owned _ (Trace.mem_run last) _ reports ?_
  exact ⟨"m", ⟨"text", .archived, 6, some "/archives/2026/01/25/m.jsonl.gz"⟩, by decide +kernel,
    rfl, rfl⟩

end OmniMarket.MemoryLifecycle
