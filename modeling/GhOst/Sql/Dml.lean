import GhOst.Sql.Builder
import GhOst.Lib.Lists

/-! The DML statement builders of `builder.go`. Each constructor prepares one
statement on the ghost table; `BuildQuery` reads the values of the relevant
columns from a binlog row image at their ordinals in the original table and
converts them into the statement's arguments. -/

namespace GhOst.Sql

/-- `args[i]` of a row image. Go panics past the end; the panic is modelled as
an error carrying the runtime's message. -/
def rowArg (args : List GoValue) (i : Nat) : Except String GoValue :=
  match args[i]? with
  | some arg => .ok arg
  | none => .error ("runtime error: index out of range [" ++ toString i ++ "] with length " ++
      toString args.length)

/-- `DMLDeleteQueryBuilder`. -/
structure DMLDeleteQueryBuilder where
  tableColumns : ColumnList
  uniqueKeyColumns : ColumnList
  preparedStatement : String

/-- `DMLInsertQueryBuilder`. -/
structure DMLInsertQueryBuilder where
  tableColumns : ColumnList
  sharedColumns : ColumnList
  preparedStatement : String

/-- `DMLUpdateQueryBuilder`. -/
structure DMLUpdateQueryBuilder where
  tableColumns : ColumnList
  sharedColumns : ColumnList
  uniqueKeyColumns : ColumnList
  preparedStatement : String

def newDMLDeleteQueryBuilder (databaseName tableName : String)
    (tableColumns uniqueKeyColumns : ColumnList) : Except String DMLDeleteQueryBuilder := do
  if uniqueKeyColumns.len = 0 then throw "no unique key columns found in NewDMLDeleteQueryBuilder"
  let databaseName := escapeName databaseName
  let tableName := escapeName tableName
  let equalsComparison ← buildEqualsPreparedComparison uniqueKeyColumns.names
  let stmt := "\n\t\tdelete /* gh-ost " ++ databaseName ++ "." ++ tableName ++ " */\n\t\tfrom\n\t\t\t" ++
    databaseName ++ "." ++ tableName ++ "\n\t\twhere\n\t\t\t" ++ equalsComparison
  return { tableColumns, uniqueKeyColumns, preparedStatement := stmt }

def newDMLInsertQueryBuilder (databaseName tableName : String)
    (tableColumns sharedColumns mappedSharedColumns : ColumnList) :
    Except String DMLInsertQueryBuilder := do
  if !sharedColumns.isSubsetOf tableColumns then
    throw "shared columns is not a subset of table columns in NewDMLInsertQueryBuilder"
  if sharedColumns.len = 0 then throw "no shared columns found in NewDMLInsertQueryBuilder"
  let databaseName := escapeName databaseName
  let tableName := escapeName tableName
  let mappedSharedColumnNames := mappedSharedColumns.names.map escapeName
  let preparedValues := buildColumnsPreparedValues mappedSharedColumns
  let stmt := "\n\t\treplace /* gh-ost " ++ databaseName ++ "." ++ tableName ++ " */\n\t\tinto\n\t\t\t" ++
    databaseName ++ "." ++ tableName ++ "\n\t\t\t(" ++ ", ".intercalate mappedSharedColumnNames ++
    ")\n\t\tvalues\n\t\t\t(" ++ ", ".intercalate preparedValues ++ ")"
  return { tableColumns, sharedColumns, preparedStatement := stmt }

def newDMLUpdateQueryBuilder (databaseName tableName : String)
    (tableColumns sharedColumns mappedSharedColumns uniqueKeyColumns : ColumnList) :
    Except String DMLUpdateQueryBuilder := do
  if !sharedColumns.isSubsetOf tableColumns then
    throw "shared columns is not a subset of table columns in NewDMLUpdateQueryBuilder"
  if sharedColumns.len = 0 then throw "no shared columns found in NewDMLUpdateQueryBuilder"
  if uniqueKeyColumns.len = 0 then throw "no unique key columns found in NewDMLUpdateQueryBuilder"
  -- virtual key columns are not among the shared columns, which are all stored
  let nonVirtualUniqueKeyColumns := uniqueKeyColumns.filterBy fun column => !column.isVirtual
  if !nonVirtualUniqueKeyColumns.isSubsetOf sharedColumns then
    throw "unique key columns is not a subset of shared columns in NewDMLUpdateQueryBuilder"
  let databaseName := escapeName databaseName
  let tableName := escapeName tableName
  let setClause ← buildSetPreparedClause mappedSharedColumns
  let equalsComparison ← buildEqualsPreparedComparison uniqueKeyColumns.names
  let stmt := "\n\t\tupdate /* gh-ost " ++ databaseName ++ "." ++ tableName ++ " */\n\t\t\t" ++
    databaseName ++ "." ++ tableName ++ "\n\t\tset\n\t\t\t" ++ setClause ++ "\n\t\twhere\n\t\t\t" ++
    equalsComparison
  return { tableColumns, sharedColumns, uniqueKeyColumns, preparedStatement := stmt }

section BuildQuery

variable (decodeBytes : CharsetEncoding → List UInt8 → List UInt8)

/-- The loop the three `BuildQuery` methods share: every column's value is read
from the row image at the column's ordinal in the table and converted. -/
def convertColumnArgs (tableColumns : ColumnList) (columns : List Column) (args : List GoValue)
    (isUniqueKeyColumn : Bool) : Except String (List GoValue) :=
  columns.mapM fun column => do
    let arg ← rowArg args (tableColumns.ordinal column.name)
    return column.convertArg decodeBytes arg isUniqueKeyColumn

def DMLDeleteQueryBuilder.buildQuery (b : DMLDeleteQueryBuilder) (args : List GoValue) :
    Except String (String × List GoValue) := do
  if args.length ≠ b.tableColumns.len then
    throw "args count differs from table column count in BuildDMLDeleteQuery"
  let uniqueKeyArgs ← convertColumnArgs decodeBytes b.tableColumns b.uniqueKeyColumns.columns args true
  return (b.preparedStatement, uniqueKeyArgs)

def DMLInsertQueryBuilder.buildQuery (b : DMLInsertQueryBuilder) (args : List GoValue) :
    Except String (String × List GoValue) := do
  if args.length ≠ b.tableColumns.len then
    throw "args count differs from table column count in BuildDMLInsertQuery"
  let sharedArgs ← convertColumnArgs decodeBytes b.tableColumns b.sharedColumns.columns args false
  return (b.preparedStatement, sharedArgs)

/-- The update's `BuildQuery` checks no length: a short image panics at its first
read past the end. -/
def DMLUpdateQueryBuilder.buildQuery (b : DMLUpdateQueryBuilder) (valueArgs whereArgs : List GoValue) :
    Except String (String × List GoValue × List GoValue) := do
  let sharedArgs ← convertColumnArgs decodeBytes b.tableColumns b.sharedColumns.columns valueArgs false
  let uniqueKeyArgs ←
    convertColumnArgs decodeBytes b.tableColumns b.uniqueKeyColumns.columns whereArgs true
  return (b.preparedStatement, sharedArgs, uniqueKeyArgs)

/-- The value `BuildQuery` reads for a column from a row image: the entry at the
column's ordinal in the table, converted. -/
def columnArg (tableColumns : ColumnList) (args : List GoValue) (isUniqueKeyColumn : Bool)
    (column : Column) : GoValue :=
  column.convertArg decodeBytes (args.getD (tableColumns.ordinal column.name) .nil) isUniqueKeyColumn

/-- Reads within the image never panic, and give each column's converted value. -/
theorem convertColumnArgs_ok {tableColumns : ColumnList} {columns : List Column} {args : List GoValue}
    (inside : ∀ column ∈ columns, tableColumns.ordinal column.name < args.length)
    (isUniqueKeyColumn : Bool) :
    convertColumnArgs decodeBytes tableColumns columns args isUniqueKeyColumn =
      .ok (columns.map (columnArg decodeBytes tableColumns args isUniqueKeyColumn)) := by
  apply Lib.mapM_ok_of_forall
  intro column member
  have found : args[tableColumns.ordinal column.name]? =
      some (args.getD (tableColumns.ordinal column.name) .nil) := by
    simp [List.getD_eq_getElem?_getD, List.getElem?_eq_getElem (inside column member)]
  simp only [rowArg, found, Lib.ok_bind, Lib.pure_eq_ok, columnArg]

theorem DMLDeleteQueryBuilder.buildQuery_eq (b : DMLDeleteQueryBuilder) {args : List GoValue}
    (full : args.length = b.tableColumns.len)
    (inside : ∀ column ∈ b.uniqueKeyColumns.columns, b.tableColumns.ordinal column.name < args.length) :
    b.buildQuery decodeBytes args = .ok (b.preparedStatement,
      b.uniqueKeyColumns.columns.map (columnArg decodeBytes b.tableColumns args true)) := by
  simp only [DMLDeleteQueryBuilder.buildQuery, full, ne_eq, not_true_eq_false, if_false,
    Lib.pure_eq_ok, Lib.ok_bind, convertColumnArgs_ok decodeBytes inside]

theorem DMLInsertQueryBuilder.buildQuery_eq (b : DMLInsertQueryBuilder) {args : List GoValue}
    (full : args.length = b.tableColumns.len)
    (inside : ∀ column ∈ b.sharedColumns.columns, b.tableColumns.ordinal column.name < args.length) :
    b.buildQuery decodeBytes args = .ok (b.preparedStatement,
      b.sharedColumns.columns.map (columnArg decodeBytes b.tableColumns args false)) := by
  simp only [DMLInsertQueryBuilder.buildQuery, full, ne_eq, not_true_eq_false, if_false,
    Lib.pure_eq_ok, Lib.ok_bind, convertColumnArgs_ok decodeBytes inside]

theorem DMLUpdateQueryBuilder.buildQuery_eq (b : DMLUpdateQueryBuilder) {valueArgs whereArgs : List GoValue}
    (insideValues : ∀ column ∈ b.sharedColumns.columns, b.tableColumns.ordinal column.name < valueArgs.length)
    (insideWhere : ∀ column ∈ b.uniqueKeyColumns.columns,
      b.tableColumns.ordinal column.name < whereArgs.length) :
    b.buildQuery decodeBytes valueArgs whereArgs = .ok (b.preparedStatement,
      b.sharedColumns.columns.map (columnArg decodeBytes b.tableColumns valueArgs false),
      b.uniqueKeyColumns.columns.map (columnArg decodeBytes b.tableColumns whereArgs true)) := by
  simp only [DMLUpdateQueryBuilder.buildQuery, convertColumnArgs_ok decodeBytes insideValues,
    convertColumnArgs_ok decodeBytes insideWhere, Lib.ok_bind, Lib.pure_eq_ok]

end BuildQuery

/-! ## The ordinals of a table's column list -/

/-- A table's column list as `NewColumnList` builds it: its ordinal map is the
map of its own columns (the inspector later sets attributes, never names). -/
def ColumnList.OrdinalsOwn (list : ColumnList) : Prop :=
  list.ordinals = newColumnsMap list.columns

/-- A name present in `NewColumnsMap` of a list maps to a position inside it. -/
theorem newColumnsMap_lt (columns : List Column) {name : String} {i : Nat}
    (found : newColumnsMap columns name = some i) : i < columns.length := by
  -- the fold only ever stores an entry's index, and entries come from `zipIdx`
  have step : ∀ (entries : List (Column × Nat)) (start : ColumnsMap),
      (∀ j, start name = some j → j < columns.length) →
      (∀ entry ∈ entries, entry.2 < columns.length) →
      ∀ j, (entries.foldl (fun (columnsMap : ColumnsMap) entry name =>
        if name = entry.1.name then some entry.2 else columnsMap name) start) name = some j →
        j < columns.length := by
    intro entries
    induction entries with
    | nil => intro start initial _ j found; exact initial j found
    | cons entry rest ih =>
      intro start initial bounded j found
      refine ih _ ?_ (fun later member => bounded later (List.mem_cons_of_mem _ member)) j found
      intro k stored
      by_cases same : name = entry.1.name
      · simp only [same, if_true, Option.some.injEq] at stored
        exact stored ▸ bounded entry List.mem_cons_self
      · simp only [same, if_false] at stored
        exact initial k stored
  refine step columns.zipIdx newEmptyColumnsMap (by simp [newEmptyColumnsMap]) ?_ i found
  intro entry member
  have := List.snd_lt_of_mem_zipIdx member
  simpa using this

/-- A column whose name a table's own map holds is read inside a full row image. -/
theorem ordinal_lt_of_isSubsetOf {table : ColumnList} (own : table.OrdinalsOwn)
    {columns : ColumnList} (subset : columns.isSubsetOf table = true) {args : List GoValue}
    (full : args.length = table.len) : ∀ column ∈ columns.columns, table.ordinal column.name < args.length := by
  intro column member
  obtain ⟨i, found⟩ := (ColumnList.isSubsetOf_iff columns table).mp subset column member
  have inside : i < table.columns.length := newColumnsMap_lt table.columns (own ▸ found)
  simp only [ColumnList.ordinal, found, Option.getD_some, full, ColumnList.len]
  exact inside

end GhOst.Sql
