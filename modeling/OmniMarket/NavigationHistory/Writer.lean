import OmniMarket.Lib.PyValue
import OmniMarket.Lib.Trace

/-!
# The navigation history writer

`record` inserts the row of a session into `navigation_sessions` and, for a successful session,
upserts its point into the Qdrant collection. The insert does nothing where the session has a row,
and the call then answers `skipped`. Each access to a store or to the embedding model may fail; a
write may fail before or after it took effect. The session models belong to another package: a
session is what the writer reads of it. Hashes, JSON texts and ISO times are parameters.
-/

namespace OmniMarket.NavigationHistory

/-! ## Sessions -/

structure ModelPlanStep where
  stepIndex : ℤ
  fromStateId : String
  toStateId : String
  action : String
  executedAt : PyDatetime

structure ModelNavigationSession where
  sessionId : String
  goalCondition : String
  startStateId : String
  endStateId : String
  stepCount : ℤ
  /-- `final_outcome.tag`. -/
  outcome : String
  /-- `final_outcome.reason` of a failure. -/
  failureReason : Option String
  isSuccessful : Bool
  graphFingerprint : String
  executedSteps : List ModelPlanStep
  createdAt : PyDatetime

/-- What the interpreter supplies. -/
structure NavigationText where
  /-- `_hash_text`. -/
  hashText : String → String
  jsonDumps : PyValue → String
  isoformat : PyDatetime → String

/-! ## Stores -/

/-- A row of `navigation_sessions`. -/
structure NavigationRow where
  sessionId : String
  goalHash : String
  goalCondition : String
  startStateId : String
  endStateId : String
  stepCount : ℤ
  outcome : String
  failureReason : Option String
  graphFingerprint : String
  stepsJson : String
  createdAt : PyDatetime

/-- A point of `navigation_paths`. -/
structure NavigationPoint where
  id : String
  goalVector : List PyFloat
  startVector : List PyFloat
  payload : PyDict

structure NavigationStore where
  rows : List NavigationRow := []
  points : List NavigationPoint := []

/-- `INSERT … ON CONFLICT (session_id) DO NOTHING RETURNING session_id`: the rows, and whether a
row was inserted. -/
def insertRow (rows : List NavigationRow) (row : NavigationRow) : List NavigationRow × Bool :=
  if rows.any fun held => held.sessionId = row.sessionId then (rows, false)
  else (rows ++ [row], true)

/-- `client.upsert` of one point. -/
def upsertPoint (point : NavigationPoint) : List NavigationPoint → List NavigationPoint
  | [] => [point]
  | held :: rest =>
    if held.id = point.id then point :: rest else held :: upsertPoint point rest

/-! ## Faults -/

/-- How a write to a store ends: done, or with an exception before or after it took effect. -/
inductive WriteEnd where
  | done
  | failedBefore (message : String)
  | failedAfter (message : String)
deriving DecidableEq

structure CallFaults where
  /-- The exception of `create_pool`. -/
  pool : Option String := none
  insert : WriteEnd := .done
  /-- The exception of the client. -/
  client : Option String := none
  goalEmbedding : Except String (List PyFloat) := .ok []
  startEmbedding : Except String (List PyFloat) := .ok []
  upsert : WriteEnd := .done

/-- A call of `record`. -/
structure RecordCall where
  session : ModelNavigationSession
  faults : CallFaults := {}

inductive EnumRecordStatus where
  | success
  | skipped
  | error
deriving DecidableEq

structure ModelNavigationHistoryResponse where
  sessionId : String
  status : EnumRecordStatus
  postgresWritten : Bool := false
  qdrantWritten : Bool := false
  idempotentSkip : Bool := false
  errorMessage : Option String := none

/-! ## Writes -/

section

variable (text : NavigationText)

/-- A step as both stores keep it. -/
def stepValue (step : ModelPlanStep) : PyValue :=
  .dict [("step_index", .int step.stepIndex), ("from_state_id", .str step.fromStateId),
    ("to_state_id", .str step.toStateId), ("action", .str step.action),
    ("executed_at", .str (text.isoformat step.executedAt))]

section

variable (session : ModelNavigationSession)

def stepsValue : PyValue :=
  .list (session.executedSteps.map (stepValue text))

def rowOf : NavigationRow where
  sessionId := session.sessionId
  goalHash := text.hashText session.goalCondition
  goalCondition := session.goalCondition
  startStateId := session.startStateId
  endStateId := session.endStateId
  stepCount := session.stepCount
  outcome := session.outcome
  failureReason := session.failureReason
  graphFingerprint := session.graphFingerprint
  stepsJson := text.jsonDumps (stepsValue text session)
  createdAt := session.createdAt

def pointOf (goalVector startVector : List PyFloat) :
    NavigationPoint where
  id := session.sessionId
  goalVector := goalVector
  startVector := startVector
  payload :=
    [("session_id", .str session.sessionId), ("goal_condition", .str session.goalCondition),
      ("goal_hash", .str (text.hashText session.goalCondition)),
      ("start_state_id", .str session.startStateId), ("end_state_id", .str session.endStateId),
      ("step_count", .int session.stepCount), ("outcome", .str session.outcome),
      ("graph_fingerprint", .str session.graphFingerprint),
      ("created_at", .str (text.isoformat session.createdAt)),
      ("steps", stepsValue text session)]

/-- `_write_postgres`: whether a row was inserted, and the rows. -/
def writePostgres (rows : List NavigationRow) (session : ModelNavigationSession) :
    WriteEnd → Except String Bool × List NavigationRow
  | .done =>
    let (rows, inserted) := insertRow rows (rowOf text session)
    (.ok inserted, rows)
  | .failedBefore message => (.error message, rows)
  | .failedAfter message => (.error message, (insertRow rows (rowOf text session)).1)

def writeQdrant (points : List NavigationPoint) (session : ModelNavigationSession)
    (faults : CallFaults) : Except String Unit × List NavigationPoint :=
  match faults.goalEmbedding, faults.startEmbedding with
  | .error message, _ => (.error message, points)
  | .ok _, .error message => (.error message, points)
  | .ok goalVector, .ok startVector =>
    let point := pointOf text session goalVector startVector
    match faults.upsert with
    | .done => (.ok (), upsertPoint point points)
    | .failedBefore message => (.error message, points)
    | .failedAfter message => (.error message, upsertPoint point points)

def reachQdrant (points : List NavigationPoint) (session : ModelNavigationSession)
    (faults : CallFaults) : Except String Unit × List NavigationPoint :=
  match faults.client with
  | some message => (.error message, points)
  | none => writeQdrant text points session faults

def postgresFailed (message : String) :
    ModelNavigationHistoryResponse where
  sessionId := session.sessionId
  status := .error
  errorMessage := some ("PostgreSQL write failed: " ++ message)

def skippedResponse : ModelNavigationHistoryResponse where
  sessionId := session.sessionId
  status := .skipped
  idempotentSkip := true

def qdrantFailed (message : String) :
    ModelNavigationHistoryResponse where
  sessionId := session.sessionId
  status := .error
  postgresWritten := true
  errorMessage := some ("Qdrant write failed (PostgreSQL OK): " ++ message)

def writtenResponse (qdrantWritten : Bool) :
    ModelNavigationHistoryResponse where
  sessionId := session.sessionId
  status := .success
  postgresWritten := true
  qdrantWritten := qdrantWritten

end

/-- What follows the insert of a row. -/
def afterInsert (store : NavigationStore) (session : ModelNavigationSession)
    (faults : CallFaults) : NavigationStore × ModelNavigationHistoryResponse :=
  if session.isSuccessful then
    match reachQdrant text store.points session faults with
    | (.ok (), points) => ({ store with points := points }, writtenResponse session true)
    | (.error message, points) => ({ store with points := points }, qdrantFailed session message)
  else (store, writtenResponse session false)

def record (store : NavigationStore) (call : RecordCall) :
    NavigationStore × ModelNavigationHistoryResponse :=
  match call.faults.pool with
  | some message => (store, postgresFailed call.session message)
  | none =>
    match writePostgres text store.rows call.session call.faults.insert with
    | (.error message, rows) =>
      ({ store with rows := rows }, postgresFailed call.session message)
    | (.ok false, rows) => ({ store with rows := rows }, skippedResponse call.session)
    | (.ok true, rows) => afterInsert text { store with rows := rows } call.session call.faults

end

/-! ## What a call reaches -/

/-- The insert of the call takes effect where the session has no row. -/
def RecordCall.reachesTable (call : RecordCall) : Bool :=
  call.faults.pool.isNone &&
    match call.faults.insert with
    | .failedBefore _ => false
    | _ => true

def RecordCall.answered (call : RecordCall) : Bool :=
  call.faults.pool.isNone && decide (call.faults.insert = .done)

/-- The upsert of the point takes effect, where the call writes to Qdrant. -/
def RecordCall.upserts (call : RecordCall) : Bool :=
  call.faults.client.isNone && call.faults.goalEmbedding.toOption.isSome &&
    call.faults.startEmbedding.toOption.isSome &&
    match call.faults.upsert with
    | .failedBefore _ => false
    | _ => true

/-- The call stores its point when it stores its row. -/
def RecordCall.placesPoint (call : RecordCall) : Bool :=
  call.session.isSuccessful && call.answered && call.upserts

def NavigationStore.HasRow (store : NavigationStore) (sessionId : String) : Prop :=
  ∃ row ∈ store.rows, row.sessionId = sessionId

def NavigationStore.HasPoint (store : NavigationStore) (sessionId : String) : Prop :=
  ∃ point ∈ store.points, point.id = sessionId

variable {text : NavigationText} {store : NavigationStore} {call : RecordCall} {sessionId : String}

theorem insertRow_held {rows : List NavigationRow} {row : NavigationRow}
    (held : ∃ other ∈ rows, other.sessionId = row.sessionId) : insertRow rows row = (rows, false) :=
  if_pos (by simpa using held)

theorem insertRow_new {rows : List NavigationRow} {row : NavigationRow}
    (new : ¬ ∃ other ∈ rows, other.sessionId = row.sessionId) :
    insertRow rows row = (rows ++ [row], true) :=
  if_neg (by simpa using new)

theorem mem_upsertPoint_id {points : List NavigationPoint} {point : NavigationPoint}
    {sessionId : String} :
    (∃ held ∈ upsertPoint point points, held.id = sessionId) ↔
      (∃ held ∈ points, held.id = sessionId) ∨ point.id = sessionId := by
  induction points with
  | nil => simp [upsertPoint]
  | cons held rest ih =>
    unfold upsertPoint
    split_ifs with same
    · rw [List.exists_mem_cons_iff, List.exists_mem_cons_iff, same]
      exact ⟨fun own => own.elim Or.inr fun later => Or.inl (Or.inr later),
        fun own => own.elim id Or.inl⟩
    · rw [List.exists_mem_cons_iff, List.exists_mem_cons_iff, ih, or_assoc]

theorem upsertPoint_ids (point : NavigationPoint) (points : List NavigationPoint) :
    (upsertPoint point points).map NavigationPoint.id = points.map NavigationPoint.id ∨
      point.id ∉ points.map NavigationPoint.id ∧
        (upsertPoint point points).map NavigationPoint.id =
          points.map NavigationPoint.id ++ [point.id] := by
  induction points with
  | nil => exact Or.inr ⟨List.not_mem_nil, rfl⟩
  | cons held rest ih =>
    unfold upsertPoint
    split_ifs with same
    · exact Or.inl (by rw [List.map_cons, List.map_cons, same])
    · rcases ih with kept | ⟨fresh, added⟩
      · exact Or.inl (by rw [List.map_cons, List.map_cons, kept])
      · refine Or.inr ⟨?_, by rw [List.map_cons, List.map_cons, added, List.cons_append]⟩
        rw [List.map_cons, List.mem_cons, not_or]
        exact ⟨fun own => same own.symm, fresh⟩

end OmniMarket.NavigationHistory
