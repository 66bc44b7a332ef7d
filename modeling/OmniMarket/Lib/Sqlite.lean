import Mathlib

/-!
# One SQLite table

A table with untyped columns beside one unique key column that is TEXT NOT NULL. Columns
are added without a type, so that they keep what is stored; the key column stores and
compares integers as their text. A row gives a value to every column, and NULL to the
columns that the table does not have.
-/

namespace Sqlite

/-! ## Names and values -/

def keywords : List String :=
  ["abort", "action", "add", "after", "all", "alter", "always", "analyze", "and", "as", "asc",
   "attach", "autoincrement", "before", "begin", "between", "by", "cascade", "case", "cast",
   "check", "collate", "column", "commit", "conflict", "constraint", "create", "cross", "current",
   "current_date", "current_time", "current_timestamp", "database", "default", "deferrable",
   "deferred", "delete", "desc", "detach", "distinct", "do", "drop", "each", "else", "end",
   "escape", "except", "exclude", "exclusive", "exists", "explain", "fail", "filter", "first",
   "following", "for", "foreign", "from", "full", "generated", "glob", "group", "groups",
   "having", "if", "ignore", "immediate", "in", "index", "indexed", "initially", "inner",
   "insert", "instead", "intersect", "into", "is", "isnull", "join", "key", "last", "left",
   "like", "limit", "match", "materialized", "natural", "no", "not", "nothing", "notnull", "null",
   "nulls", "of", "offset", "on", "or", "order", "others", "outer", "over", "partition", "plan",
   "pragma", "preceding", "primary", "query", "raise", "range", "recursive", "references",
   "regexp", "reindex", "release", "rename", "replace", "restrict", "returning", "right",
   "rollback", "row", "rows", "savepoint", "select", "set", "table", "temp", "temporary", "then",
   "ties", "to", "transaction", "trigger", "unbounded", "union", "unique", "update", "using",
   "vacuum", "values", "view", "virtual", "when", "where", "window", "with", "without"]

def startsName (c : Char) : Bool := c == '_' || c.isLower

/-- A lower-case identifier that a statement may hold without quotes. -/
def isName (name : String) : Bool :=
  match name.toList with
  | [] => false
  | first :: rest =>
    startsName first && rest.all (fun c => startsName c || c.isDigit) && !keywords.contains name

inductive Value where
  | null
  | integer (value : ℤ)
  | text (value : String)
deriving DecidableEq

/-- Integers of more than 64 bits cannot be bound. -/
def Value.Bindable : Value → Prop
  | .integer value => -(2 ^ 63) ≤ value ∧ value < 2 ^ 63
  | _ => True

instance : DecidablePred Value.Bindable
  | .null => isTrue trivial
  | .integer value => inferInstanceAs (Decidable (-(2 ^ 63) ≤ value ∧ value < 2 ^ 63))
  | .text _ => isTrue trivial

def Value.asText : Value → Value
  | .integer value => .text (toString value)
  | other => other

/-- `a = b` in a WHERE clause: a comparison with NULL does not hold. -/
def Value.equals (a b : Value) : Bool := a ≠ .null && a = b

inductive Error where
  | duplicateColumn
  | noSuchColumn
  | integerTooLarge
  | notNull

/-! ## Tables -/

structure Table (κ : Type) where
  columns : List κ
  rows : List (κ → Value)
  nodup : columns.Nodup
  null_outside : ∀ row ∈ rows, ∀ column, column ∉ columns → row column = .null

variable {κ : Type} [DecidableEq κ]

namespace Table

/-- `ALTER TABLE ADD COLUMN` without a type: every stored row has NULL there. -/
def addColumn (table : Table κ) (column : κ) : Except Error (Table κ) :=
  if present : column ∈ table.columns then .error .duplicateColumn
  else
    .ok
      { columns := table.columns ++ [column]
        rows := table.rows
        nodup := by
          rw [List.nodup_append]
          refine ⟨table.nodup, List.nodup_singleton column, ?_⟩
          rintro other member added single rfl
          exact present (List.mem_singleton.mp single ▸ member)
        null_outside := by
          intro row member other absent
          rw [List.mem_append, not_or] at absent
          exact table.null_outside row member other absent.1 }

def addColumns (table : Table κ) : List κ → Except Error (Table κ)
  | [] => .ok table
  | column :: rest =>
    match table.addColumn column with
    | .error raised => .error raised
    | .ok widened => widened.addColumns rest

/-- What happens to a stored row with the key of an inserted one. -/
inductive OnConflict (κ : Type) where
  | doNothing
  | doUpdateSet (columns : List κ)

/-- The stored row after a conflict with `excluded`. -/
def OnConflict.resolve (excluded : κ → Value) (row : κ → Value) : OnConflict κ → κ → Value
  | .doNothing => row
  | .doUpdateSet columns => fun column => if column ∈ columns then excluded column else row column

/-- The row that an INSERT proposes: NULL in the columns it does not name. -/
def excluded (key : κ) (columns : List κ) (values : κ → Value) (column : κ) : Value :=
  if column ∈ columns then
    if column = key then (values column).asText else values column
  else .null

/-- Every row with the key of `proposed` is resolved; without one, `proposed` is appended. -/
def upsertRows (key : κ) (conflict : OnConflict κ) (proposed : κ → Value)
    (rows : List (κ → Value)) : List (κ → Value) :=
  if rows.any fun row => row key = proposed key then
    rows.map fun row => if row key = proposed key then conflict.resolve proposed row else row
  else rows ++ [proposed]

variable {conflict : OnConflict κ} {proposed row : κ → Value}

theorem OnConflict.resolve_null {column : κ} (unproposed : proposed column = .null)
    (null : row column = .null) : conflict.resolve proposed row column = .null := by
  cases conflict with
  | doNothing => exact null
  | doUpdateSet updated =>
    show (if column ∈ updated then proposed column else row column) = .null
    split
    · exact unproposed
    · exact null

variable {key : κ} {rows : List (κ → Value)}

theorem upsertRows_null {column : κ} (unproposed : proposed column = .null)
    (null : ∀ row ∈ rows, row column = .null) :
    ∀ row ∈ upsertRows key conflict proposed rows, row column = .null := by
  intro row member
  unfold upsertRows at member
  split at member
  · obtain ⟨old, present, rfl⟩ := List.mem_map.mp member
    split
    · exact OnConflict.resolve_null unproposed (null old present)
    · exact null old present
  · rw [List.mem_append, List.mem_singleton] at member
    rcases member with present | rfl
    · exact null row present
    · exact unproposed

/-- `INSERT INTO table (columns) VALUES (...) ON CONFLICT (key) ...`. -/
def insertOnConflict (table : Table κ) (key : κ) (columns : List κ) (values : κ → Value)
    (conflict : OnConflict κ) : Except Error (Table κ) :=
  let proposed := excluded key columns values
  if declared : ∀ column ∈ columns, column ∈ table.columns then
    if ∀ column ∈ columns, (values column).Bindable then
      if proposed key = .null then .error .notNull
      else
        .ok
          { table with
            rows := upsertRows key conflict proposed table.rows
            null_outside := by
              intro row member column absent
              refine upsertRows_null ?_ ?_ row member
              · exact if_neg fun listed => absent (declared column listed)
              · exact fun old present => table.null_outside old present column absent }
    else .error .integerTooLarge
  else .error .noSuchColumn

/-- `SELECT * FROM table WHERE c = :c AND ...`. -/
def select (table : Table κ) (key : κ) (clauses : List (κ × Value)) :
    Except Error (List (κ → Value)) :=
  if ∀ clause ∈ clauses, clause.1 ∈ table.columns then
    if ∀ clause ∈ clauses, clause.2.Bindable then
      .ok (table.rows.filter fun row => clauses.all fun clause =>
        (row clause.1).equals (if clause.1 = key then clause.2.asText else clause.2))
    else .error .integerTooLarge
  else .error .noSuchColumn

/-! ## What the statements change -/

variable {table : Table κ}

theorem addColumn_eq {column : κ} (fresh : column ∉ table.columns) :
    ∃ widened, table.addColumn column = .ok widened ∧
      widened.columns = table.columns ++ [column] ∧ widened.rows = table.rows := by
  rw [addColumn, dif_neg fresh]
  exact ⟨_, rfl, rfl, rfl⟩

theorem addColumns_eq {added : List κ} (nodup : added.Nodup)
    (fresh : ∀ column ∈ added, column ∉ table.columns) :
    ∃ widened, table.addColumns added = .ok widened ∧
      widened.columns = table.columns ++ added ∧ widened.rows = table.rows := by
  induction added generalizing table with
  | nil => exact ⟨table, rfl, (List.append_nil _).symm, rfl⟩
  | cons column rest ih =>
    obtain ⟨unrepeated, restNodup⟩ := List.nodup_cons.mp nodup
    obtain ⟨first, ok, columns, rows⟩ := addColumn_eq (fresh column (List.mem_cons_self ..))
    have restFresh : ∀ other ∈ rest, other ∉ first.columns := by
      intro other listed present
      rw [columns, List.mem_append, List.mem_singleton] at present
      rcases present with declared | rfl
      · exact fresh other (List.mem_cons_of_mem _ listed) declared
      · exact unrepeated listed
    obtain ⟨widened, added, allColumns, sameRows⟩ := ih restNodup restFresh
    refine ⟨widened, ?_, ?_, sameRows.trans rows⟩
    · rw [addColumns, ok]
      exact added
    · rw [allColumns, columns, List.append_assoc]
      rfl

theorem upsertRows_other (differs : row key ≠ proposed key) :
    upsertRows key conflict proposed (row :: rows) =
      row :: upsertRows key conflict proposed rows := by
  unfold upsertRows
  rw [List.any_cons, decide_eq_false differs, Bool.false_or]
  split
  · rw [List.map_cons, if_neg differs]
  · rfl

theorem upsertRows_same (same : row key = proposed key)
    (unique : ∀ other ∈ rows, other key ≠ proposed key) :
    upsertRows key conflict proposed (row :: rows) = conflict.resolve proposed row :: rows := by
  unfold upsertRows
  rw [List.any_cons, decide_eq_true same, Bool.true_or, if_pos rfl, List.map_cons, if_pos same]
  refine congrArg _ ((List.map_congr_left fun other listed => ?_).trans (List.map_id _))
  exact if_neg (unique other listed)

theorem insertOnConflict_eq {table : Table κ} {key : κ} {columns : List κ} {values : κ → Value}
    {conflict : OnConflict κ} (declared : ∀ column ∈ columns, column ∈ table.columns)
    (bindable : ∀ column ∈ columns, (values column).Bindable)
    (keyed : excluded key columns values key ≠ .null) :
    ∃ updated, table.insertOnConflict key columns values conflict = .ok updated ∧
      updated.columns = table.columns ∧
      updated.rows = upsertRows key conflict (excluded key columns values) table.rows := by
  unfold insertOnConflict
  dsimp only
  rw [dif_pos declared, if_pos bindable, if_neg keyed]
  exact ⟨_, rfl, rfl, rfl⟩

theorem select_eq {table : Table κ} {key : κ} {clauses : List (κ × Value)}
    (declared : ∀ clause ∈ clauses, clause.1 ∈ table.columns)
    (bindable : ∀ clause ∈ clauses, clause.2.Bindable) :
    table.select key clauses = .ok (table.rows.filter fun row => clauses.all fun clause =>
      (row clause.1).equals (if clause.1 = key then clause.2.asText else clause.2)) := by
  rw [select, if_pos declared, if_pos bindable]

end Table

end Sqlite
