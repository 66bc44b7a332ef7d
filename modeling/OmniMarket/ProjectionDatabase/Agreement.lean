import OmniMarket.ProjectionDatabase.Adapters

/-!
# When the two adapters agree

The same operations run on both adapters. They agree as long as no upsert drops a column,
no value is stored in another form, and no filter is read in two ways.
-/

namespace OmniMarket.ProjectionDatabase

open Sqlite (Value)
open SqliteDatabaseAdapter (keptFilters)
variable {columns : List Column} {table : Sqlite.Table Column} {rows : List Row} {filters : Row}

/-! ## Runs on both adapters -/

structure Databases where
  memory : InmemoryDatabaseAdapter := {}
  sqlite : SqliteDatabaseAdapter := {}

inductive Operation where
  | upsert (row : Row)
  | query (filters : Option Row)

/-- What an operation returned on each adapter. -/
inductive Outcome where
  | upserted (memory sqlite : Except AdapterError Unit)
  | queried (memory : List Row) (sqlite : Except AdapterError (List Row))

namespace Databases

def perform (databases : Databases) : Operation → Databases × Outcome
  | .upsert row =>
    let (memory, inMemory) := databases.memory.upsert row
    let (sqlite, inSqlite) := databases.sqlite.upsert row
    ({ memory, sqlite }, .upserted inMemory inSqlite)
  | .query filters =>
    (databases, .queried (databases.memory.query filters) (databases.sqlite.query filters))

def outcomes (databases : Databases) : List Operation → List Outcome
  | [] => []
  | operation :: rest =>
    (databases.perform operation).2 :: (databases.perform operation).1.outcomes rest

end Databases

/-- The same multiset of rows, where an absent column is read as `None`. -/
def SameRows (rows rows' : List Row) : Prop := (rows.map Row.read).Perm (rows'.map Row.read)

def Outcome.Agrees : Outcome → Prop
  | .upserted memory sqlite => memory = sqlite
  | .queried memory sqlite => ∃ rows, sqlite = .ok rows ∧ SameRows memory rows

/-! ## Operations on which the adapters agree -/

def Keyed (row : Row) : Prop := ∃ id, row.get? correlationId = some (.text id)

/-- The row has a text key and stores each value as it is, and it names every column in
which a stored row of its key is not `None`. -/
structure UpsertFits (databases : Databases) (row : Row) : Prop where
  keyed : Keyed row
  plain : ∀ column ∈ row.keys, isJsonColumn column = false
  bindable : ∀ column ∈ row.keys, (row.read column).Bindable
  covers : ∀ stored ∈ databases.memory.rows,
    stored.read correlationId = row.read correlationId →
      ∀ column, stored.read column ≠ .null → column ∈ row.keys

def SqliteSelects (columns : List Column) (filters row : Row) : Prop :=
  keptFilters columns filters ≠ [] ∧
    ∀ filter ∈ keptFilters columns filters,
      (row.read filter.1).equals
        (if filter.1 = correlationId then filter.2.asText else filter.2) = true

structure QueryFits (databases : Databases) (filters : Row) : Prop where
  bindable : ∀ filter ∈ filters.entries, filter.1 ∈ databases.sqlite.table.columns →
    filter.2.Bindable
  /-- `NULL = NULL` does not hold, and a query whose filters are all dropped returns nothing. -/
  memoryOnly :
    (∀ filter ∈ filters.entries, filter.1 ∉ databases.sqlite.table.columns) ∨
      (∃ filter ∈ filters.entries, filter.1 ∈ databases.sqlite.table.columns ∧ filter.2 = .null) →
    ∀ row ∈ databases.memory.rows, InmemoryDatabaseAdapter.matchesAll filters row = false
  /-- A filter on a column that the table does not have is dropped, and an integer key is
  compared as its text. -/
  sqliteOnly :
    (∃ filter ∈ filters.entries, filter.1 ∉ databases.sqlite.table.columns ∧
        filter.2 ≠ .null) ∨
      (∃ id, (correlationId, Value.integer id) ∈ filters.entries) →
    ∀ row ∈ databases.memory.rows, ¬ SqliteSelects databases.sqlite.table.columns filters row

def Databases.Fits (databases : Databases) : Operation → Prop
  | .upsert row => row.get? correlationId = none ∨ UpsertFits databases row
  | .query none => True
  | .query (some filters) => filters.entries = [] ∨ QueryFits databases filters

def Databases.FitsThroughout (databases : Databases) : List Operation → Prop
  | [] => True
  | operation :: rest =>
    databases.Fits operation ∧ (databases.perform operation).1.FitsThroughout rest

structure Databases.Agree (databases : Databases) : Prop where
  rows : databases.sqlite.table.rows = databases.memory.rows.map Row.read
  keyed : ∀ row ∈ databases.memory.rows, Keyed row
  distinct : (databases.memory.rows.map fun row => row.read correlationId).Nodup
  keyColumn : correlationId ∈ databases.sqlite.table.columns
  plain : ∀ column ∈ databases.sqlite.table.columns, isJsonColumn column = false

theorem agree_empty : Databases.Agree {} :=
  ⟨rfl, by simp, by simp, List.mem_singleton_self _, by
    intro column member
    rw [List.mem_singleton.mp member]
    decide +kernel⟩

variable {databases : Databases} {row : Row} {column : Column}

/-! ## Reading rows -/

theorem read_absent (absent : column ∉ row.keys) : row.read column = .null := by
  rw [Row.read, OrderedDict.get?, OrderedDict.lookupEntry_eq_none absent]
  rfl

theorem mem_keys_of_read (given : row.read column ≠ .null) : column ∈ row.keys :=
  not_not.mp fun absent => given (read_absent absent)

theorem lookupEntry_columns {values : Column → Value} (listed : column ∈ columns) :
    OrderedDict.lookupEntry column (columns.map fun column => (column, values column)) =
      some (values column) := by
  induction columns with
  | nil => cases listed
  | cons head rest ih =>
    rw [List.map_cons, OrderedDict.lookupEntry]
    split
    · rename_i same
      rw [same]
    · rename_i differs
      rcases List.mem_cons.mp listed with rfl | later
      · exact absurd rfl differs
      · exact ih later

theorem read_rowDict {stored : Column → Value} (member : stored ∈ table.rows) :
    (SqliteDatabaseAdapter.rowDict table stored).read = stored := by
  funext column
  by_cases listed : column ∈ table.columns
  · rw [Row.read, OrderedDict.get?]
    show (OrderedDict.lookupEntry column (table.columns.map _)).getD .null = stored column
    rw [lookupEntry_columns listed]
    rfl
  · have absent : column ∉ (SqliteDatabaseAdapter.rowDict table stored).keys := by
      show column ∉ (table.columns.map fun column => (column, stored column)).map Prod.fst
      rw [List.map_map]
      simpa using listed
    rw [read_absent absent, table.null_outside stored member column listed]

/-! ## Upserts -/

theorem Keyed.read (keyed : Keyed row) : ∃ id, row.read correlationId = .text id := by
  obtain ⟨id, held⟩ := keyed
  exact ⟨id, by rw [Row.read, held]; rfl⟩

theorem sameKey_iff {stored : Row} (keyed : Keyed row) (keyed' : Keyed stored) :
    InmemoryDatabaseAdapter.sameKey stored row = true ↔
      stored.read correlationId = row.read correlationId := by
  obtain ⟨id, held⟩ := keyed
  obtain ⟨id', held'⟩ := keyed'
  simp [InmemoryDatabaseAdapter.sameKey, Row.read, held, held']

theorem mem_replaceRow {other : Row}
    (member : other ∈ InmemoryDatabaseAdapter.replaceRow row rows) :
    other = row ∨ other ∈ rows := by
  induction rows with
  | nil => exact Or.inl (List.mem_singleton.mp member)
  | cons existing rest ih =>
    rw [InmemoryDatabaseAdapter.replaceRow] at member
    split at member
    · exact (List.mem_cons.mp member).imp_right (List.mem_cons_of_mem _)
    · rcases List.mem_cons.mp member with rfl | later
      · exact Or.inr (List.mem_cons_self ..)
      · exact (ih later).imp_right (List.mem_cons_of_mem _)

theorem replaceRow_keys (keyed : Keyed row) (allKeyed : ∀ row ∈ rows, Keyed row) :
    (InmemoryDatabaseAdapter.replaceRow row rows).map (fun row => row.read correlationId) =
      if row.read correlationId ∈ rows.map (fun row => row.read correlationId) then
        rows.map fun row => row.read correlationId
      else rows.map (fun row => row.read correlationId) ++ [row.read correlationId] := by
  induction rows with
  | nil => simp [InmemoryDatabaseAdapter.replaceRow]
  | cons existing rest ih =>
    have sameKey := sameKey_iff keyed (allKeyed existing (List.mem_cons_self ..))
    have ih := ih fun other listed => allKeyed other (List.mem_cons_of_mem _ listed)
    rw [InmemoryDatabaseAdapter.replaceRow]
    split
    · rename_i same
      have same := sameKey.mp same
      simp [same]
    · rename_i differs
      have differs : row.read correlationId ≠ existing.read correlationId :=
        fun same => differs (sameKey.mpr same.symm)
      rw [List.map_cons, ih, List.map_cons]
      by_cases listed : row.read correlationId ∈ rest.map fun row => row.read correlationId
      · rw [if_pos listed, if_pos (List.mem_cons_of_mem _ listed)]
      · rw [if_neg listed, if_neg (by rw [List.mem_cons, not_or]; exact ⟨differs, listed⟩),
          List.cons_append]

theorem replaceRow_distinct (keyed : Keyed row) (allKeyed : ∀ row ∈ rows, Keyed row)
    (distinct : (rows.map fun row => row.read correlationId).Nodup) :
    ((InmemoryDatabaseAdapter.replaceRow row rows).map fun row =>
      row.read correlationId).Nodup := by
  rw [replaceRow_keys keyed allKeyed]
  split
  · exact distinct
  · rename_i fresh
    rw [List.nodup_append]
    refine ⟨distinct, List.nodup_singleton _, ?_⟩
    rintro key listed other single rfl
    exact fresh (List.mem_singleton.mp single ▸ listed)

theorem encode_plain {value : Value} (plain : isJsonColumn column = false) :
    encode column value = value := by
  rw [encode, plain]
  rfl

theorem excluded_read (keyed : Keyed row)
    (plain : ∀ column ∈ row.keys, isJsonColumn column = false) :
    Sqlite.Table.excluded correlationId row.keys (fun column => encode column (row.read column)) =
      row.read := by
  funext column
  unfold Sqlite.Table.excluded
  split
  · rename_i listed
    dsimp only
    rw [encode_plain (plain column listed)]
    split
    · rename_i isKey
      obtain ⟨id, held⟩ := keyed.read
      rw [isKey, held]
      rfl
    · rfl
  · rename_i absent
    exact (read_absent absent).symm

theorem resolve_onConflict {proposed stored : Column → Value} :
    (SqliteDatabaseAdapter.onConflict row).resolve proposed stored column =
      if column ∈ row.keys ∧ column ≠ correlationId then proposed column else stored column := by
  have updated : column ∈ (row.keys.filter fun column => column ≠ correlationId) ↔
      column ∈ row.keys ∧ column ≠ correlationId := by
    rw [List.mem_filter, decide_eq_true_iff]
  unfold SqliteDatabaseAdapter.onConflict
  dsimp only
  split
  · rename_i isEmpty
    rw [List.isEmpty_iff.mp isEmpty] at updated
    rw [if_neg (updated.not.mp List.not_mem_nil)]
    rfl
  · show (if column ∈ _ then proposed column else stored column) = _
    rw [if_congr updated rfl rfl]

theorem onConflict_resolve {stored : Row}
    (same : stored.read correlationId = row.read correlationId)
    (covers : ∀ column, stored.read column ≠ .null → column ∈ row.keys) :
    (SqliteDatabaseAdapter.onConflict row).resolve row.read stored.read = row.read := by
  funext column
  rw [resolve_onConflict]
  split
  · rfl
  · rename_i kept
    rcases not_and_or.mp kept with absent | isKey
    · rw [read_absent absent]
      exact not_not.mp fun given => absent (covers column given)
    · rw [not_not.mp isKey, same]

theorem replaceRow_read (keyed : Keyed row) (allKeyed : ∀ row ∈ rows, Keyed row)
    (distinct : (rows.map fun row => row.read correlationId).Nodup)
    (covers : ∀ stored ∈ rows, stored.read correlationId = row.read correlationId →
      ∀ column, stored.read column ≠ .null → column ∈ row.keys) :
    Sqlite.Table.upsertRows correlationId (SqliteDatabaseAdapter.onConflict row) row.read
        (rows.map Row.read) =
      (InmemoryDatabaseAdapter.replaceRow row rows).map Row.read := by
  induction rows with
  | nil => rfl
  | cons existing rest ih =>
    have sameKey := sameKey_iff keyed (allKeyed existing (List.mem_cons_self ..))
    rw [List.map_cons, List.nodup_cons] at distinct
    rw [InmemoryDatabaseAdapter.replaceRow, List.map_cons]
    split
    · rename_i same
      have same := sameKey.mp same
      rw [Sqlite.Table.upsertRows_same same, List.map_cons,
        onConflict_resolve same (covers existing (List.mem_cons_self ..) same)]
      rintro other listed sameOther
      obtain ⟨stored, present, rfl⟩ := List.mem_map.mp listed
      exact distinct.1 (List.mem_map.mpr ⟨stored, present, sameOther.trans same.symm⟩)
    · rename_i differs
      rw [Sqlite.Table.upsertRows_other fun same => differs (sameKey.mpr same), List.map_cons,
        ih (fun other listed => allKeyed other (List.mem_cons_of_mem _ listed)) distinct.2
          fun stored listed => covers stored (List.mem_cons_of_mem _ listed)]

theorem ensureColumns_eq (table : Sqlite.Table Column) (row : Row) :
    ∃ widened, SqliteDatabaseAdapter.ensureColumns table row = .ok widened ∧
      widened.rows = table.rows ∧
      ∀ column, column ∈ widened.columns ↔ column ∈ table.columns ∨ column ∈ row.keys := by
  obtain ⟨widened, added, columns, rows⟩ :=
    Sqlite.Table.addColumns_eq (row.nodup.filter fun column => column ∉ table.columns)
      (fun column listed => of_decide_eq_true (List.mem_filter.mp listed).2)
  refine ⟨widened, added, rows, ?_⟩
  intro column
  rw [columns, List.mem_append, List.mem_filter, decide_eq_true_iff]
  constructor
  · rintro (declared | ⟨listed, _⟩)
    · exact Or.inl declared
    · exact Or.inr listed
  · rintro (declared | listed)
    · exact Or.inl declared
    · by_cases declared : column ∈ table.columns
      · exact Or.inl declared
      · exact Or.inr ⟨listed, declared⟩

theorem sqlite_upsert_eq (adapter : SqliteDatabaseAdapter) (keyed : Keyed row)
    (plain : ∀ column ∈ row.keys, isJsonColumn column = false)
    (bindable : ∀ column ∈ row.keys, (row.read column).Bindable) :
    ∃ updated, adapter.upsert row = ({ table := updated }, .ok ()) ∧
      (∀ column, column ∈ updated.columns ↔ column ∈ adapter.table.columns ∨ column ∈ row.keys) ∧
      updated.rows = Sqlite.Table.upsertRows correlationId (SqliteDatabaseAdapter.onConflict row)
        row.read adapter.table.rows := by
  obtain ⟨widened, ensured, widenedRows, widenedColumns⟩ := ensureColumns_eq adapter.table row
  have proposed := excluded_read keyed plain
  obtain ⟨id, held⟩ := keyed.read
  have encoded : ∀ column ∈ row.keys, (encode column (row.read column)).Bindable := by
    intro column listed
    rw [encode_plain (plain column listed)]
    exact bindable column listed
  have declared : ∀ column ∈ row.keys, column ∈ widened.columns :=
    fun column listed => (widenedColumns column).mpr (Or.inr listed)
  have present : Sqlite.Table.excluded correlationId row.keys
      (fun column => encode column (row.read column)) correlationId ≠ .null := by
    rw [proposed, held]
    exact Value.noConfusion
  obtain ⟨updated, inserted, columns, rows⟩ := @Sqlite.Table.insertOnConflict_eq _ _ _ _ _ _
    (SqliteDatabaseAdapter.onConflict row) declared encoded present
  rw [proposed, widenedRows] at rows
  refine ⟨updated, ?_, ?_, rows⟩
  · obtain ⟨text, given⟩ := keyed
    unfold SqliteDatabaseAdapter.upsert
    rw [given]
    dsimp only
    rw [ensured]
    dsimp only
    rw [inserted]
  · rw [columns]
    exact widenedColumns

theorem memory_upsert_eq {adapter : InmemoryDatabaseAdapter} (keyed : Keyed row) :
    adapter.upsert row =
      ({ rows := InmemoryDatabaseAdapter.replaceRow row adapter.rows
         upsertCount := adapter.upsertCount + 1 }, .ok ()) := by
  obtain ⟨id, given⟩ := keyed
  rw [InmemoryDatabaseAdapter.upsert, given]

theorem upsert_keeps_agreement (agree : databases.Agree) (fits : UpsertFits databases row) :
    (databases.perform (.upsert row)).2 = .upserted (.ok ()) (.ok ()) ∧
      (databases.perform (.upsert row)).1.Agree := by
  obtain ⟨updated, upserted, columns, rows⟩ :=
    sqlite_upsert_eq databases.sqlite fits.keyed fits.plain fits.bindable
  rw [Databases.perform, memory_upsert_eq fits.keyed, upserted]
  refine ⟨rfl, ?_, ?_, ?_, ?_, ?_⟩
  · show updated.rows = _
    rw [rows, agree.rows]
    exact replaceRow_read fits.keyed agree.keyed agree.distinct fits.covers
  · intro other member
    rcases mem_replaceRow member with rfl | stored
    · exact fits.keyed
    · exact agree.keyed other stored
  · exact replaceRow_distinct fits.keyed agree.keyed agree.distinct
  · exact (columns correlationId).mpr (Or.inl agree.keyColumn)
  · intro column declared
    rcases (columns column).mp declared with stored | added
    · exact agree.plain column stored
    · exact fits.plain column added

theorem upsert_without_key (missing : row.get? correlationId = none) :
    databases.perform (.upsert row) =
      (databases, .upserted (.error (.keyError [correlationId.name]))
        (.error (.keyError [correlationId.name]))) := by
  rw [Databases.perform, InmemoryDatabaseAdapter.upsert, SqliteDatabaseAdapter.upsert, missing]

/-! ## Queries -/

theorem map_rowDict {rows : List (Column → Value)} (stored : ∀ row ∈ rows, row ∈ table.rows) :
    (rows.map (SqliteDatabaseAdapter.rowDict table)).map Row.read = rows := by
  rw [List.map_map]
  exact (List.map_congr_left fun row member => read_rowDict (stored row member)).trans
    (List.map_id _)

theorem sameRows_all (agree : databases.Agree) : SameRows databases.memory.rows
      (databases.sqlite.table.rows.map (SqliteDatabaseAdapter.rowDict databases.sqlite.table)) := by
  rw [SameRows, map_rowDict fun _ member => member, agree.rows]

theorem mem_keptFilters {filter : Column × Value} :
    filter ∈ keptFilters columns filters ↔ filter ∈ filters.entries ∧ filter.1 ∈ columns := by
  rw [keptFilters, List.mem_filter, decide_eq_true_iff]

theorem keptFilters_encode (plain : ∀ column ∈ columns, isJsonColumn column = false) :
    (keptFilters columns filters).map (fun filter => (filter.1, encode filter.1 filter.2)) =
      keptFilters columns filters := by
  refine (List.map_congr_left fun filter kept => ?_).trans (List.map_id _)
  rw [encode_plain (plain filter.1 (mem_keptFilters.mp kept).2)]
  rfl

theorem equals_iff {stored value : Value} :
    stored.equals value = true ↔ stored ≠ .null ∧ stored = value := by
  simp [Value.equals]

theorem filters_agree (agree : databases.Agree) (fits : QueryFits databases filters)
    (member : row ∈ databases.memory.rows) :
    InmemoryDatabaseAdapter.matchesAll filters row = true ↔
      SqliteSelects databases.sqlite.table.columns filters row := by
  obtain ⟨id, held⟩ := (agree.keyed row member).read
  constructor
  · intro selected
    -- a row that the in-memory adapter selects rules the first two differences out
    have compared := fun unread => fits.memoryOnly unread row member
    rw [selected] at compared
    have matched : ∀ filter ∈ filters.entries, row.read filter.1 = filter.2 := by
      intro filter listed
      exact of_decide_eq_true (List.all_eq_true.mp selected filter listed)
    refine ⟨?_, ?_⟩
    · intro none
      refine Bool.noConfusion (compared (Or.inl fun filter listed declared => ?_))
      exact List.ne_nil_of_mem (mem_keptFilters.mpr ⟨listed, declared⟩) none
    · intro filter kept
      obtain ⟨listed, declared⟩ := mem_keptFilters.mp kept
      rw [equals_iff]
      have same := matched filter listed
      refine ⟨?_, ?_⟩
      · intro null
        exact Bool.noConfusion
          (compared (Or.inr ⟨filter, listed, declared, same.symm.trans null⟩))
      · split
        · rename_i isKey
          rw [← same, isKey, held]
          rfl
        · exact same
  · intro selected
    -- a row that SQLite selects rules the other two differences out
    have compared := fun unread => fits.sqliteOnly unread row member selected
    refine List.all_eq_true.mpr fun filter listed => decide_eq_true ?_
    by_cases declared : filter.1 ∈ databases.sqlite.table.columns
    · have same :=
        (equals_iff.mp (selected.2 filter (mem_keptFilters.mpr ⟨listed, declared⟩))).2
      by_cases isKey : filter.1 = correlationId
      · rw [if_pos isKey] at same
        obtain ⟨column, value⟩ := filter
        obtain rfl : column = correlationId := isKey
        cases value with
        | integer id => exact absurd (Or.inr ⟨id, listed⟩) compared
        | null => exact same
        | text id => exact same
      · rwa [if_neg isKey] at same
    · have null : filter.2 = .null :=
        not_not.mp fun given => compared (Or.inl ⟨filter, listed, declared, given⟩)
      rw [null]
      refine databases.sqlite.table.null_outside row.read ?_ filter.1 declared
      rw [agree.rows]
      exact List.mem_map_of_mem member

theorem query_agrees {filters : Option Row} (agree : databases.Agree)
    (fits : databases.Fits (.query filters)) : (databases.perform (.query filters)).2.Agrees := by
  show ∃ rows, databases.sqlite.query filters = .ok rows ∧
    SameRows (databases.memory.query filters) rows
  cases filters with
  | none => exact ⟨_, rfl, sameRows_all agree⟩
  | some filters =>
    unfold InmemoryDatabaseAdapter.query SqliteDatabaseAdapter.query
    dsimp only
    cases unfiltered : filters.entries.isEmpty with
    | true => exact ⟨_, rfl, sameRows_all agree⟩
    | false =>
      have fits : QueryFits databases filters := by
        rcases fits with none | fits
        · simp [none] at unfiltered
        · exact fits
      rw [if_neg Bool.false_ne_true, if_neg Bool.false_ne_true]
      split
      · rename_i dropped
        refine ⟨[], rfl, ?_⟩
        rw [List.filter_eq_nil_iff.mpr, SameRows]
        intro row member selected
        exact ((filters_agree agree fits member).mp selected).1 (List.isEmpty_iff.mp dropped)
      · rename_i kept
        have kept : keptFilters databases.sqlite.table.columns filters ≠ [] :=
          fun none => kept (List.isEmpty_iff.mpr none)
        have selected := @Sqlite.Table.select_eq _ _ databases.sqlite.table correlationId
          (keptFilters databases.sqlite.table.columns filters)
          (fun filter kept => (mem_keptFilters.mp kept).2)
          (fun filter kept => fits.bindable filter (mem_keptFilters.mp kept).1
            (mem_keptFilters.mp kept).2)
        rw [keptFilters_encode agree.plain, selected]
        refine ⟨_, rfl, ?_⟩
        rw [SameRows, map_rowDict fun row member => (List.mem_filter.mp member).1, agree.rows,
          List.filter_map]
        refine List.Perm.of_eq (congrArg _ (List.filter_congr fun row member => ?_))
        rw [Bool.eq_iff_iff, filters_agree agree fits member, SqliteSelects,
          Function.comp_apply, List.all_eq_true]
        exact and_iff_right kept

theorem perform_agrees {operation : Operation} (agree : databases.Agree)
    (fits : databases.Fits operation) :
    (databases.perform operation).2.Agrees ∧ (databases.perform operation).1.Agree := by
  cases operation with
  | upsert row =>
    rcases fits with missing | fits
    · rw [upsert_without_key missing]
      exact ⟨rfl, agree⟩
    · obtain ⟨done, agree⟩ := upsert_keeps_agreement agree fits
      rw [done]
      exact ⟨rfl, agree⟩
  | query filters => exact ⟨query_agrees agree fits, agree⟩

theorem outcomes_agree {operations : List Operation} (agree : databases.Agree)
    (fits : databases.FitsThroughout operations) :
    ∀ outcome ∈ databases.outcomes operations, outcome.Agrees := by
  induction operations generalizing databases with
  | nil => exact nofun
  | cons operation rest ih =>
    obtain ⟨agrees, agree⟩ := perform_agrees agree fits.1
    rintro outcome (_ | ⟨_, later⟩)
    · exact agrees
    · exact ih agree fits.2 outcome later

/-- Over every sequence of operations that fit, both adapters return the same. -/
theorem adapters_agree (operations : List Operation)
    (fits : Databases.FitsThroughout {} operations) :
    ∀ outcome ∈ Databases.outcomes {} operations, outcome.Agrees :=
  outcomes_agree agree_empty fits

/-! ### Runs that agree and that do not -/

def modelName : Column := ⟨"model_name", by decide +kernel⟩

def tokensInput : Column := ⟨"tokens_input", by decide +kernel⟩

def tenantId : Column := ⟨"tenant_id", by decide +kernel⟩

/-- A terminal row, a later one of the same delegation with a column more, and their query. -/
def sparseThenFull : List Operation :=
  [.upsert ⟨[(correlationId, .text "a"), (modelName, .null)], by decide +kernel⟩,
   .upsert ⟨[(correlationId, .text "a"), (tokensInput, .integer 7)], by decide +kernel⟩,
   .query (some ⟨[(tokensInput, .integer 7)], by decide +kernel⟩)]

theorem sparseThenFull_fits : Databases.FitsThroughout {} sparseThenFull := by
  refine ⟨Or.inr ?_, Or.inr ?_, Or.inr ?_, trivial⟩
  · exact ⟨⟨"a", rfl⟩, by decide +kernel, by decide +kernel, nofun⟩
  · refine ⟨⟨"a", rfl⟩, by decide +kernel, by decide +kernel, ?_⟩
    intro stored member _ column given
    obtain rfl := List.mem_singleton.mp member
    have named := mem_keys_of_read given
    rcases List.mem_cons.mp named with rfl | other
    · exact List.mem_cons_self ..
    · obtain rfl : column = modelName := List.mem_singleton.mp other
      exact absurd (by decide +kernel) given
  · refine ⟨by decide +kernel, by decide +kernel, ?_⟩
    rintro (dropped | ⟨id, listed⟩)
    · exact absurd dropped (by decide +kernel)
    · have isKey : correlationId = tokensInput :=
        congrArg Prod.fst (List.mem_singleton.mp listed)
      exact absurd isKey (by decide +kernel)

theorem sparseThenFull_agrees :
    Databases.FitsThroughout {} sparseThenFull ∧
      ∀ outcome ∈ Databases.outcomes {} sparseThenFull, outcome.Agrees :=
  ⟨sparseThenFull_fits, adapters_agree sparseThenFull sparseThenFull_fits⟩

/-- A filter on a column that no row has named is dropped by SQLite, and selects nothing in
memory. -/
def unknownTenant : Row :=
  ⟨[(correlationId, .text "a"), (tenantId, .text "acme")], by decide +kernel⟩

theorem dropped_filter_disagrees : ¬ ∀ (operations : List Operation) (memory : List Row)
        (answer : Except AdapterError (List Row)),
      .queried memory answer ∈ Databases.outcomes {} operations →
      ∃ rows, answer = .ok rows ∧ SameRows memory rows := by
  intro agree
  let stored := (Databases.perform {}
    (.upsert ⟨[(correlationId, .text "a")], by decide +kernel⟩)).1
  obtain ⟨rows, returned, same⟩ := agree
    [.upsert ⟨[(correlationId, .text "a")], by decide +kernel⟩, .query (some unknownTenant)]
    (stored.memory.query (some unknownTenant)) (stored.sqlite.query (some unknownTenant))
    (List.mem_cons_of_mem _ (List.mem_cons_self ..))
  have inMemory : (stored.memory.query (some unknownTenant)).length = 0 := by decide +kernel
  have inSqlite : (stored.sqlite.query (some unknownTenant)).toOption.map List.length = some 1 := by
    decide +kernel
  rw [returned] at inSqlite
  have counted := same.length_eq
  rw [List.length_map, List.length_map, inMemory] at counted
  rw [Except.toOption, Option.map_some, ← counted] at inSqlite
  exact absurd inSqlite (by decide)

end OmniMarket.ProjectionDatabase
