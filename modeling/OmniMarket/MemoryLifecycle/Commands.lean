import Mathlib.Logic.Function.Basic
import OmniMarket.Lib.PyValue
import OmniMarket.Lib.Trace

/-!
# Archive and expire commands

Handlers run commands on one table of memories and one archive directory. A command goes on from
one `await` to the next, and other commands may move in between. Its `UPDATE` is in flight from
the moment it is issued: the server runs it at one moment, or never, and the client hears of the
result, or of an error whatever the server did.

An act carries what the outside answers: the circuit breaker, the clock, errors of the database
client, the path check, the file system and the orphan tracker. Acts that do not fit where a
command is change nothing.
-/

namespace OmniMarket.MemoryLifecycle

/-! ## Rows and files -/

inductive EnumLifecycleState where
  | active
  | expired
  | archived
  | other (value : String)
deriving DecidableEq

def EnumLifecycleState.value : EnumLifecycleState → String
  | .active => "active"
  | .expired => "expired"
  | .archived => "archived"
  | .other value => value

/-- A row of `memories`. -/
structure ModelMemoryRow where
  content : String
  lifecycleState : EnumLifecycleState
  lifecycleRevision : ℤ
  archivePath : Option String := none
deriving DecidableEq

/-- What an archive file holds. -/
structure ModelArchiveRecord where
  memoryId : String
  content : String
  lifecycleRevision : ℤ
deriving DecidableEq

structure Date where
  year : ℕ
  month : ℕ
  day : ℕ
deriving DecidableEq

/-- An exception of the database client that the handlers catch. -/
inductive DatabaseError where
  | postgres (text : String)
  | client (text : String)
  | timeout (text : String)
deriving DecidableEq

/-- An `UPDATE` with an optimistic lock, as the server sees it. -/
inductive Statement where
  | unissued
  | issued
  /-- The server ran it, and it matched a row or not. -/
  | executed (matched : Bool)

/-! ## Archive commands -/

structure ModelArchiveMemoryCommand where
  memoryId : String
  expectedRevision : ℤ
  archivePath : Option String := none

structure ModelMemoryArchiveResult where
  memoryId : String
  success : Bool
  conflict : Bool := false
  orphaned : Bool := false
  archivedAt : Option Date := none
  archivePath : Option String := none
  bytesWritten : Option ℕ := none
  errorMessage : Option String := none
deriving DecidableEq

structure HandlerMemoryArchive where
  archiveBasePath : String
  orphanTracker : Bool

def getArchivePath (handler : HandlerMemoryArchive) (memoryId : String) (archivedAt : Date) :
    String :=
  handler.archiveBasePath ++ "/" ++ toString archivedAt.year ++ "/" ++
    PyNumber.padLeft 2 (toString archivedAt.month) ++ "/" ++
    PyNumber.padLeft 2 (toString archivedAt.day) ++ "/" ++ memoryId ++ ".jsonl.gz"

/-- Where an archive command waits. -/
inductive ArchivePc where
  | start
  | reading
  /-- The record is built; it is compressed and written in a thread. -/
  | writing (record : ModelArchiveRecord)
  | marking (bytesWritten : ℕ)
  /-- The tracker is called, after a conflict or after an error. -/
  | tracking (bytesWritten : ℕ) (error : Option DatabaseError)
  | returned (result : ModelMemoryArchiveResult)
  | raised (text : String)
deriving DecidableEq

structure ArchiveRun where
  pc : ArchivePc := .start
  now : Date := ⟨1970, 1, 1⟩
  /-- The path of the archive file, from the write on. -/
  path : Option String := none
  update : Statement := .unissued

/-- What the read ends with when it does not answer. -/
inductive ReadError where
  | value (text : String)
  | database (error : DatabaseError)

/-- What the tracker ends with when it raises. -/
inductive TrackerError where
  | database (error : DatabaseError)
  | other (text : String)

inductive ArchiveAct where
  | begin (now : Date) (allowed : Bool)
  /-- The `SELECT` answers with the row of this moment, or fails. -/
  | read (failure : Option ReadError)
  /-- The path check and the write; an error is the text of the check or of an `OSError`. -/
  | write (rejected : Option String) (written : Except String ℕ)
  /-- The server runs the `UPDATE`. -/
  | execute
  /-- The `UPDATE` answers what the server did, or the client raises. -/
  | reply (failure : Option DatabaseError)
  /-- The status of the `UPDATE` is not one that the handler can read. -/
  | unreadable (status : String)
  | tracked (failure : Option TrackerError)

/-- What an act shows outside. -/
inductive Shown where
  | nothing
  | trackOrphan (memoryId archivePath reason : String)
  | archived (result : ModelMemoryArchiveResult)

section

variable (command : ModelArchiveMemoryCommand)

def archiveFailure (message : String) :
    ModelMemoryArchiveResult where
  memoryId := command.memoryId
  success := false
  errorMessage := some message

def archiveSuccess (now : Date) (path : String) (bytesWritten : ℕ) : ModelMemoryArchiveResult where
  memoryId := command.memoryId
  success := true
  archivedAt := some now
  archivePath := some path
  bytesWritten := some bytesWritten

def readErrorMessage : ReadError → String
  | .value text => text
  | .database (.postgres text) => "Database error reading memory: " ++ text
  | .database (.client text) => "Client error reading memory: " ++ text
  | .database (.timeout text) => "Query timeout reading memory: " ++ text

def updateErrorMessage : DatabaseError → String
  | .postgres text => "Database error during state update: " ++ text
  | .client text => "Client error during state update: " ++ text
  | .timeout text => "Timeout during state update: " ++ text

def updateErrorReason : DatabaseError → String
  | .postgres _ => "database_error_during_state_update"
  | .client _ => "client_error_during_state_update"
  | .timeout _ => "timeout_during_state_update"

def orphanResult (path : String) (bytesWritten : ℕ) :
    Option DatabaseError → ModelMemoryArchiveResult
  | none =>
    { memoryId := command.memoryId
      success := false
      conflict := true
      orphaned := true
      archivePath := some path
      bytesWritten := some bytesWritten
      errorMessage := some
        "Revision conflict during state update. Archive file written but state not updated." }
  | some error =>
    { memoryId := command.memoryId
      success := false
      orphaned := true
      archivePath := some path
      bytesWritten := some bytesWritten
      errorMessage := some (updateErrorMessage error) }

def orphanReason : Option DatabaseError → String
  | none => "revision_conflict_during_state_update"
  | some error => updateErrorReason error

def ArchiveRun.finish (run : ArchiveRun) (result : ModelMemoryArchiveResult) :
    ArchiveRun × Shown :=
  ({ run with pc := .returned result }, .archived result)

/-- The branch of a conflict or of an error: the tracker is called, or the result is returned. -/
def ArchiveRun.reportOrphan (run : ArchiveRun) (handler : HandlerMemoryArchive)
    (command : ModelArchiveMemoryCommand) (path : String) (bytesWritten : ℕ)
    (error : Option DatabaseError) : ArchiveRun × Shown :=
  if handler.orphanTracker then
    ({ run with pc := .tracking bytesWritten error },
      .trackOrphan command.memoryId path (orphanReason error))
  else run.finish (orphanResult command path bytesWritten error)

/-- `handle` after the read answered with a row, or with none. -/
def afterRead (row : Option ModelMemoryRow) (run : ArchiveRun) : ArchiveRun × Shown :=
  match row with
  | none => run.finish (archiveFailure command ("Memory " ++ command.memoryId ++ " not found"))
  | some row =>
    if row.lifecycleRevision ≠ command.expectedRevision then
      run.finish
        { archiveFailure command ("Revision conflict: expected " ++
            toString command.expectedRevision ++ ", memory was modified or not found") with
          conflict := true }
    else if row.lifecycleState ≠ .expired then
      run.finish (archiveFailure command ("Cannot archive memory in state " ++
        row.lifecycleState.value ++ ". Only EXPIRED memories can be archived."))
    else
      ({ run with pc := .writing ⟨command.memoryId, row.content, row.lifecycleRevision⟩ },
        .nothing)

end

/-! ## Expire commands -/

structure ModelExpireMemoryCommand where
  memoryId : String
  expectedRevision : ℤ

structure ModelMemoryExpireResult where
  memoryId : String
  success : Bool
  conflict : Bool := false
  newRevision : Option ℤ := none
  previousState : Option EnumLifecycleState := none
  errorMessage : Option String := none
deriving DecidableEq

/-- Where an expire command waits. -/
inductive ExpirePc where
  | start
  | updating
  | diagnosing
  | returned (result : ModelMemoryExpireResult)
deriving DecidableEq

structure ExpireRun where
  pc : ExpirePc := .start
  update : Statement := .unissued

/-- What `_read_current_state` ends with when it does not answer. -/
inductive DiagnosisError where
  | breakerOpen
  | database (error : DatabaseError)

inductive ExpireAct where
  | begin (allowed : Bool)
  | execute
  | reply (failure : Option DatabaseError)
  /-- `_read_current_state` answers with the row of this moment, or fails. -/
  | diagnose (failure : Option DiagnosisError)

section

variable (command : ModelExpireMemoryCommand)

def expireFailure (message : String) :
    ModelMemoryExpireResult where
  memoryId := command.memoryId
  success := false
  errorMessage := some message

def expireSuccess : ModelMemoryExpireResult where
  memoryId := command.memoryId
  success := true
  newRevision := some (command.expectedRevision + 1)
  previousState := some .active

def expireErrorMessage : DatabaseError → String
  | .postgres text => "Database error: " ++ text
  | .client text => "Client error: " ++ text
  | .timeout _ => "Database query timeout"

def DatabaseError.text : DatabaseError → String
  | .postgres text => text
  | .client text => text
  | .timeout text => text

def diagnosisErrorMessage : DiagnosisError → String
  | .breakerOpen =>
    "Database circuit breaker is open. Unable to read current state for diagnostics."
  | .database error =>
    "Expiration failed and unable to determine cause. State read error: " ++ error.text

def diagnosis :
    Option ModelMemoryRow → ModelMemoryExpireResult
  | none => expireFailure command "Memory not found"
  | some row =>
    if row.lifecycleRevision ≠ command.expectedRevision then
      { expireFailure command ("Revision conflict: expected " ++
          toString command.expectedRevision ++ ", found " ++ toString row.lifecycleRevision) with
        conflict := true
        previousState := some row.lifecycleState }
    else
      { expireFailure command ("Cannot expire memory in state " ++ row.lifecycleState.value ++
          ". Only ACTIVE memories can be expired.") with
        previousState := some row.lifecycleState }

/-! ## The table -/

/-- `memories`, by id. -/
abbrev Table := String → Option ModelMemoryRow

/-- An `UPDATE` whose `WHERE` names the id, the revision and the state: the table after it, and
whether it matched. -/
def guardedUpdate (rows : Table) (memoryId : String) (expectedRevision : ℤ)
    (required : EnumLifecycleState) (set : ModelMemoryRow → ModelMemoryRow) : Table × Bool :=
  match rows memoryId with
  | none => (rows, false)
  | some row =>
    if row.lifecycleRevision = expectedRevision ∧ row.lifecycleState = required then
      (Function.update rows memoryId (some (set row)), true)
    else (rows, false)

/-- The `SET` of `_mark_archived`. -/
def ModelMemoryRow.toArchived (row : ModelMemoryRow) (path : String) : ModelMemoryRow :=
  { row with
    lifecycleState := .archived
    lifecycleRevision := row.lifecycleRevision + 1
    archivePath := some path }

/-- The `SET` of `_EXPIRE_SQL`. -/
def ModelMemoryRow.toExpired (row : ModelMemoryRow) : ModelMemoryRow :=
  { row with lifecycleState := .expired, lifecycleRevision := row.lifecycleRevision + 1 }

/-- The `UPDATE` of `_mark_archived`. -/
def markArchived (rows : Table) (command : ModelArchiveMemoryCommand) (path : String) :
    Table × Bool :=
  guardedUpdate rows command.memoryId command.expectedRevision .expired (·.toArchived path)

/-- `_EXPIRE_SQL`. -/
def markExpired (rows : Table) (command : ModelExpireMemoryCommand) : Table × Bool :=
  guardedUpdate rows command.memoryId command.expectedRevision .active (·.toExpired)

/-! ## Steps -/

/-- The database and the archive directory. -/
structure Storage where
  rows : Table
  files : String → Option ModelArchiveRecord

def archiveStep (handler : HandlerMemoryArchive) (command : ModelArchiveMemoryCommand)
    (storage : Storage) (run : ArchiveRun) : ArchiveAct → (Storage × ArchiveRun) × Shown
  | .begin now allowed =>
    if run.pc = .start then
      if allowed then ((storage, { run with pc := .reading, now := now }), .nothing)
      else
        let (run', shown) := { run with now := now }.finish (archiveFailure command
          ("Database circuit breaker is open. " ++
            "Service is protecting against cascading failures."))
        ((storage, run'), shown)
    else ((storage, run), .nothing)
  | .read failure =>
    if run.pc = .reading then
      let (run', shown) :=
        match failure with
        | some error => run.finish (archiveFailure command (readErrorMessage error))
        | none => afterRead command (storage.rows command.memoryId) run
      ((storage, run'), shown)
    else ((storage, run), .nothing)
  | .write rejected written =>
    match run.pc with
    | .writing record =>
      let path := command.archivePath.getD (getArchivePath handler command.memoryId run.now)
      -- only a path of the caller is checked
      match (if command.archivePath.isSome then rejected else none), written with
      | some message, _ =>
        let (run', shown) := run.finish (archiveFailure command message)
        ((storage, run'), shown)
      | none, .error text =>
        let (run', shown) := run.finish (archiveFailure command
          ("Archive write failed: " ++ text))
        ((storage, run'), shown)
      | none, .ok bytesWritten =>
        (({ storage with files := Function.update storage.files path (some record) },
          { run with pc := .marking bytesWritten, path := some path, update := .issued }),
          .nothing)
    | _ => ((storage, run), .nothing)
  | .execute =>
    match run.update, run.path with
    | .issued, some path =>
      let (rows, matched) := markArchived storage.rows command path
      (({ storage with rows := rows }, { run with update := .executed matched }), .nothing)
    | _, _ => ((storage, run), .nothing)
  | .reply failure =>
    match run.pc, run.path with
    | .marking bytesWritten, some path =>
      match failure, run.update with
      | some error, _ =>
        let (run', shown) := run.reportOrphan handler command path bytesWritten (some error)
        ((storage, run'), shown)
      | none, .executed true =>
        let (run', shown) := run.finish (archiveSuccess command run.now path bytesWritten)
        ((storage, run'), shown)
      | none, .executed false =>
        let (run', shown) := run.reportOrphan handler command path bytesWritten none
        ((storage, run'), shown)
      | none, _ => ((storage, run), .nothing)
    | _, _ => ((storage, run), .nothing)
  | .unreadable status =>
    match run.pc with
    | .marking _ =>
      ((storage, { run with pc := .raised ("Unexpected DB result format: " ++ status) }),
        .nothing)
    | _ => ((storage, run), .nothing)
  | .tracked failure =>
    match run.pc, run.path with
    | .tracking bytesWritten error, some path =>
      match failure, error with
      | none, _ =>
        let (run', shown) := run.finish (orphanResult command path bytesWritten error)
        ((storage, run'), shown)
      -- the tracker of a conflict is called inside the `try` block of the update
      | some (.database raised), none =>
        let (run', shown) := run.reportOrphan handler command path bytesWritten (some raised)
        ((storage, run'), shown)
      | some (.database raised), some _ =>
        ((storage, { run with pc := .raised raised.text }), .nothing)
      | some (.other text), _ => ((storage, { run with pc := .raised text }), .nothing)
    | _, _ => ((storage, run), .nothing)

def expireStep (rows : Table) (run : ExpireRun) :
    ExpireAct → Table × ExpireRun
  | .begin allowed =>
    if run.pc = .start then
      if allowed then (rows, { run with pc := .updating, update := .issued })
      else (rows, { run with pc := .returned (expireFailure command
        "Database circuit breaker is open. Service is temporarily unavailable.") })
    else (rows, run)
  | .execute =>
    match run.update with
    | .issued =>
      let (rows', matched) := markExpired rows command
      (rows', { run with update := .executed matched })
    | _ => (rows, run)
  | .reply failure =>
    if run.pc = .updating then
      match failure, run.update with
      | some error, _ =>
        (rows, { run with pc := .returned (expireFailure command (expireErrorMessage error)) })
      | none, .executed true =>
        (rows, { run with pc := .returned (expireSuccess command) })
      | none, .executed false => (rows, { run with pc := .diagnosing })
      | none, _ => (rows, run)
    else (rows, run)
  | .diagnose failure =>
    if run.pc = .diagnosing then
      match failure with
      | some error =>
        (rows, { run with pc := .returned (expireFailure command
          (diagnosisErrorMessage error)) })
      | none => (rows, { run with pc := .returned (diagnosis command (rows command.memoryId)) })
    else (rows, run)

end

/-! ## Commands side by side -/

variable {α ε : Type} [DecidableEq α] [DecidableEq ε]

/-- Archive commands, indexed by `α`, and expire commands, indexed by `ε`. -/
structure Commands (α ε : Type) where
  handler : HandlerMemoryArchive
  archive : α → ModelArchiveMemoryCommand
  expire : ε → ModelExpireMemoryCommand

structure State (α ε : Type) where
  storage : Storage
  archives : α → ArchiveRun
  expires : ε → ExpireRun

inductive Event (α ε : Type) where
  | archive (command : α) (act : ArchiveAct)
  | expire (command : ε) (act : ExpireAct)

def step (commands : Commands α ε) (state : State α ε) : Event α ε → State α ε × Shown
  | .archive i act =>
    let moved := archiveStep commands.handler (commands.archive i) state.storage
      (state.archives i) act
    (⟨moved.1.1, Function.update state.archives i moved.1.2, state.expires⟩, moved.2)
  | .expire i act =>
    let moved := expireStep (commands.expire i) state.storage.rows (state.expires i) act
    (⟨{ state.storage with rows := moved.1 }, state.archives,
      Function.update state.expires i moved.2⟩, .nothing)

/-- Every command before its first act, on any table and directory. -/
def initial (storage : Storage) : State α ε := ⟨storage, fun _ => {}, fun _ => {}⟩

end OmniMarket.MemoryLifecycle
