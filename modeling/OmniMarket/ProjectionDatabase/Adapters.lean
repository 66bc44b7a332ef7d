import OmniMarket.Lib.Json
import OmniMarket.Lib.Sqlite

/-!
# The projection database adapters

`InmemoryDatabaseAdapter` keeps a list of rows; `SqliteDatabaseAdapter` keeps a table that
has one column at first and gets a column for each new key of a row. Both are modelled on
the `delegation_events` table, keyed by `correlation_id`. A row is a dictionary; its values
are `None`, integers and texts, which the SQLite driver maps to NULL, INTEGER and TEXT.
-/

namespace OmniMarket.ProjectionDatabase

open Sqlite (Value)

/-! ## Rows -/

/-- A column name that an SQL statement takes as it is, and that differs from another name
in more than its case. -/
structure Column where
  name : String
  plain : Sqlite.isName name = true
deriving DecidableEq

/-- The conflict key. -/
def correlationId : Column := ⟨"correlation_id", by decide +kernel⟩

abbrev Row := OrderedDict Column Value

/-- `row.get(column)`. -/
def Row.read (row : Row) (column : Column) : Value := (row.get? column).getD .null

inductive AdapterError where
  /-- `row missing conflict key(s)`. -/
  | keyError (missing : List String)
  | sqlite (raised : Sqlite.Error)

/-! ## The in-memory adapter -/

structure InmemoryDatabaseAdapter where
  rows : List Row := []
  upsertCount : ℕ := 0

namespace InmemoryDatabaseAdapter

/-- `key in existing and existing[key] == row[key]`. -/
def sameKey (existing row : Row) : Bool :=
  match existing.get? correlationId, row.get? correlationId with
  | some held, some value => held = value
  | _, _ => false

/-- The row takes the place of the first one with its key, or the last place. -/
def replaceRow (row : Row) : List Row → List Row
  | [] => [row]
  | existing :: rest =>
    if sameKey existing row then row :: rest else existing :: replaceRow row rest

def upsert (adapter : InmemoryDatabaseAdapter) (row : Row) :
    InmemoryDatabaseAdapter × Except AdapterError Unit :=
  match row.get? correlationId with
  | none => (adapter, .error (.keyError [correlationId.name]))
  | some _ =>
    ({ rows := replaceRow row adapter.rows, upsertCount := adapter.upsertCount + 1 }, .ok ())

def matchesAll (filters row : Row) : Bool :=
  filters.entries.all fun filter => row.read filter.1 = filter.2

def query (adapter : InmemoryDatabaseAdapter) : Option Row → List Row
  | none => adapter.rows
  | some filters =>
    if filters.entries.isEmpty then adapter.rows
    else adapter.rows.filter (matchesAll filters)

end InmemoryDatabaseAdapter

/-! ## The SQLite adapter -/

def unicodeEscape (code : ℕ) : List Char :=
  '\\' :: 'u' :: [code / 4096 % 16, code / 256 % 16, code / 16 % 16, code % 16].map Nat.digitChar

/-- A character of a JSON text without characters beyond ASCII. -/
def escapeAscii (c : Char) : List Char :=
  if c.toNat < 127 then Json.escapeChar c
  else if c.toNat < 0x10000 then unicodeEscape c.toNat
  else
    unicodeEscape (0xd800 + (c.toNat - 0x10000) / 0x400) ++
      unicodeEscape (0xdc00 + (c.toNat - 0x10000) % 0x400)

/-- `json.dumps(value)`. -/
def jsonDumps : Value → String
  | .null => "null"
  | .integer value => toString value
  | .text value => String.ofList ('"' :: (value.toList.flatMap escapeAscii ++ ['"']))

def JSON_COLUMNS : List String :=
  ["quality_gates_checked_jsonb", "quality_gates_failed_jsonb"]

def isJsonColumn (column : Column) : Bool := JSON_COLUMNS.contains column.name

/-- `_encode` on these values: in a JSON column each of them is serialised. -/
def encode (column : Column) (value : Value) : Value :=
  if isJsonColumn column then .text (jsonDumps value) else value

/-- `delegation_events` as it is created. -/
def delegationEvents : Sqlite.Table Column where
  columns := [correlationId]
  rows := []
  nodup := List.nodup_singleton _
  null_outside := by simp

structure SqliteDatabaseAdapter where
  table : Sqlite.Table Column := delegationEvents

namespace SqliteDatabaseAdapter

def ensureColumns (table : Sqlite.Table Column) (row : Row) :
    Except Sqlite.Error (Sqlite.Table Column) :=
  table.addColumns (row.keys.filter fun column => column ∉ table.columns)

def onConflict (row : Row) : Sqlite.Table.OnConflict Column :=
  let updateCols := row.keys.filter fun column => column ≠ correlationId
  if updateCols.isEmpty then .doNothing else .doUpdateSet updateCols

/-- Columns that were added stay when the INSERT fails. -/
def upsert (adapter : SqliteDatabaseAdapter) (row : Row) :
    SqliteDatabaseAdapter × Except AdapterError Unit :=
  match row.get? correlationId with
  | none => (adapter, .error (.keyError [correlationId.name]))
  | some _ =>
    match ensureColumns adapter.table row with
    | .error raised => (adapter, .error (.sqlite raised))
    | .ok widened =>
      match widened.insertOnConflict correlationId row.keys
          (fun column => encode column (row.read column)) (onConflict row) with
      | .error raised => ({ table := widened }, .error (.sqlite raised))
      | .ok updated => ({ table := updated }, .ok ())

/-- `dict(row)`: every column of the table. -/
def rowDict (table : Sqlite.Table Column) (row : Column → Value) : Row where
  entries := table.columns.map fun column => (column, row column)
  nodup := by
    rw [List.map_map]
    exact (List.map_id' _).symm ▸ table.nodup

def keptFilters (columns : List Column) (filters : Row) : List (Column × Value) :=
  filters.entries.filter fun filter => filter.1 ∈ columns

/-- Filters on columns that the table does not have are dropped; without a filter that is
left nothing is returned. -/
def query (adapter : SqliteDatabaseAdapter) : Option Row → Except AdapterError (List Row)
  | none => .ok (adapter.table.rows.map (rowDict adapter.table))
  | some filters =>
    if filters.entries.isEmpty then .ok (adapter.table.rows.map (rowDict adapter.table))
    else
      let clauses := keptFilters adapter.table.columns filters
      if clauses.isEmpty then .ok []
      else
        match adapter.table.select correlationId
            (clauses.map fun filter => (filter.1, encode filter.1 filter.2)) with
        | .error raised => .error (.sqlite raised)
        | .ok rows => .ok (rows.map (rowDict adapter.table))

end SqliteDatabaseAdapter

end OmniMarket.ProjectionDatabase
