import GhOst.Sql.Builder
import GhOst.Mysql.Lexical
import GhOst.Lib.Lists

/-! The server's side of the checkpoint table's statements, as far as they use it.
`CREATE TABLE` reads each column's name from its backtick-quoted definition and refuses
a name given twice or longer than 64 characters. An `INSERT`'s column list names
unquoted identifiers separated by commas, and the statement stores each bound value in
the column it names; the auto-increment key takes the next value. `SELECT *` returns a
row's values in the order the columns were created. Column names are compared after the
collation's case folding `fold`, which on ASCII is lowercasing; reserved words are not
modelled. -/

namespace GhOst.Mysql

open Sql

/-- MySQL's whitespace between tokens. -/
def isSpace (c : Char) : Bool :=
  c = ' ' || c = '\t' || c = '\n' || c = '\r'

/-- A character of an unquoted identifier: an ASCII letter or digit, `$`, `_`, or a
character from U+0080 to U+FFFF. -/
def isIdentifierChar (c : Char) : Bool :=
  c.isAlphanum || c = '$' || c = '_' || (0x80 ≤ c.toNat && c.toNat ≤ 0xFFFF)

def trimSpace (text : List Char) : List Char :=
  ((text.dropWhile isSpace).reverse.dropWhile isSpace).reverse

/-- One entry of a column list: an unquoted identifier with whitespace around it. -/
def unquotedColumn (piece : List Char) : Option String :=
  let name := trimSpace piece
  if name ≠ [] ∧ name.all isIdentifierChar then some (String.ofList name) else none

/-- The columns an `INSERT`'s column list names, separated by commas. -/
def insertColumnNames (columnList : List Char) : Option (List String) :=
  (columnList.splitOn ',').mapM unquotedColumn

/-- A name that reads back from an `INSERT`'s column list: a non-empty unquoted
identifier. -/
structure UnquotedName (name : String) : Prop where
  nonempty : name.toList ≠ []
  identifier : ∀ c ∈ name.toList, isIdentifierChar c

theorem isSpace_of_isIdentifierChar {c : Char} (identifier : isIdentifierChar c) : isSpace c = false := by
  cases spaced : isSpace c
  · rfl
  · simp only [isSpace, Bool.or_eq_true, decide_eq_true_eq] at spaced
    rcases spaced with ((rfl | rfl) | rfl) | rfl <;> simp [isIdentifierChar] at identifier

theorem dropWhile_of_head {p : Char → Bool} {l : List Char} (stops : ∀ c ∈ l.head?, p c = false) :
    l.dropWhile p = l := by
  cases l with
  | nil => rfl
  | cons c rest => simp [stops c rfl]

/-- Whitespace before an identifier is trimmed away, and nothing else. -/
theorem trimSpace_append {ws : List Char} (spaces : ∀ c ∈ ws, isSpace c) {name : String}
    (unquoted : UnquotedName name) : trimSpace (ws ++ name.toList) = name.toList := by
  have noSpace : ∀ c ∈ name.toList, isSpace c = false := fun c member =>
    isSpace_of_isIdentifierChar (unquoted.identifier c member)
  have leading : (ws ++ name.toList).dropWhile isSpace = name.toList := by
    rw [List.dropWhile_append_of_pos spaces]
    exact dropWhile_of_head fun c first => noSpace c (List.mem_of_mem_head? first)
  have trailing : name.toList.reverse.dropWhile isSpace = name.toList.reverse :=
    dropWhile_of_head fun c first => noSpace c (List.mem_reverse.mp (List.mem_of_mem_head? first))
  rw [trimSpace, leading, trailing, List.reverse_reverse]

theorem unquotedColumn_append {ws : List Char} (spaces : ∀ c ∈ ws, isSpace c) {name : String}
    (unquoted : UnquotedName name) : unquotedColumn (ws ++ name.toList) = some name := by
  have identifiers : name.toList.all isIdentifierChar := List.all_eq_true.mpr unquoted.identifier
  simp [unquotedColumn, trimSpace_append spaces unquoted, unquoted.nonempty, identifiers]

/-- A comma ends one entry of a column list and starts the next. -/
theorem insertColumnNames_append_comma (before after : List Char) :
    insertColumnNames (before ++ ',' :: after) =
      (insertColumnNames before).bind fun first => (insertColumnNames after).map (first ++ ·) := by
  simp only [insertColumnNames, List.splitOn_append_cons_self, List.mapM_append]
  cases insertColumnNames_first : (before.splitOn ',').mapM unquotedColumn <;>
    cases insertColumnNames_second : (after.splitOn ',').mapM unquotedColumn <;> rfl

/-- One identifier after some whitespace reads back as itself. -/
theorem insertColumnNames_single {ws : List Char} (spaces : ∀ c ∈ ws, isSpace c) {name : String}
    (unquoted : UnquotedName name) : insertColumnNames (ws ++ name.toList) = some [name] := by
  have noComma : ',' ∉ ws ++ name.toList := by
    intro comma
    rcases List.mem_append.mp comma with inSpace | inName
    · simpa [isSpace] using spaces ',' inSpace
    · simpa [isIdentifierChar] using unquoted.identifier ',' inName
  simp [insertColumnNames, List.splitOn_eq_singleton noComma, unquotedColumn_append spaces unquoted]

/-- Identifiers joined by `", "` after some whitespace read back as themselves. -/
theorem insertColumnNames_intercalate :
    ∀ {names : List String} {ws : List Char}, (∀ c ∈ ws, isSpace c) → names ≠ [] →
      (∀ name ∈ names, UnquotedName name) → insertColumnNames (ws ++ (", ".intercalate names).toList) = some names
  | [name], _, spaces, _, unquoted => by
    simpa using insertColumnNames_single spaces (unquoted name List.mem_cons_self)
  | name :: next :: rest, _, spaces, _, unquoted => by
    have joined : (", ".intercalate (name :: next :: rest)).toList =
        name.toList ++ ',' :: ([' '] ++ (", ".intercalate (next :: rest)).toList) := by
      simp [String.intercalate_cons_cons, String.toList_append]
    -- the first name ends at the comma; the others follow it, each after one space
    have later := @insertColumnNames_intercalate (next :: rest) [' '] (by simp [isSpace]) (List.cons_ne_nil next rest)
      fun n member => unquoted n (List.mem_cons_of_mem name member)
    rw [joined, ← List.append_assoc, insertColumnNames_append_comma,
      insertColumnNames_single spaces (unquoted name List.mem_cons_self), later]
    rfl

/-- The name a column definition `` `name` type `` defines. -/
def definedColumn (columnDef : String) : Option String :=
  (lexQuotedIdentifier columnDef.toList).map fun (name, _) => String.ofList name

/-- The checkpoint table as the server holds it: its columns in creation order, its rows
in the order of the auto-increment `gh_ost_chk_id`, which is the order of insertion,
and the next auto-increment value. -/
structure CheckpointTable where
  columns : List String
  rows : List (List GoValue)
  autoIncrement : Int64
  deriving DecidableEq, Repr

/-- The values a prepared `INSERT`'s value list stores, under the assumption that an
expression around a placeholder stores its argument: `unix_timestamp(now())` stores the
time of the statement, every other expression the next argument. -/
def bindValues (now : Int64) : List String → List GoValue → Option (List GoValue)
  | [], [] => some []
  | [], _ :: _ => none
  | value :: values, args =>
    if value = unixTimestampNow then (bindValues now values args).map (GoValue.int64 now :: ·)
    else match args with
      | arg :: rest => (bindValues now values rest).map (arg :: ·)
      | [] => none

/-- Arguments for value expressions that all hold a placeholder are stored as they are. -/
theorem bindValues_of_placeholders (now : Int64) :
    ∀ {values : List String} {args : List GoValue}, (∀ value ∈ values, value ≠ unixTimestampNow) →
      values.length = args.length → bindValues now values args = some args
  | [], [], _, _ => rfl
  | [], _ :: _, _, len => by simp at len
  | _ :: _, [], _, len => by simp at len
  | value :: values, arg :: args, placeholders, len => by
    have rest := bindValues_of_placeholders now (fun v member => placeholders v (List.mem_cons_of_mem value member))
      (by simpa using len)
    simp [bindValues, placeholders value List.mem_cons_self, rest]

/-- Every value expression stores one value. -/
theorem length_of_bindValues (now : Int64) :
    ∀ {values : List String} {args stored : List GoValue}, bindValues now values args = some stored →
      stored.length = values.length
  | [], [], stored, bound => by
    cases bound
    rfl
  | [], _ :: _, _, bound => by cases bound
  | value :: values, args, stored, bound => by
    unfold bindValues at bound
    split at bound
    · obtain ⟨rest, restBound, rfl⟩ := Option.map_eq_some_iff.mp bound
      simp [length_of_bindValues now restBound]
    · split at bound
      · obtain ⟨rest, restBound, rfl⟩ := Option.map_eq_some_iff.mp bound
        simp [length_of_bindValues now restBound]
      · cases bound

theorem bindValues_now_cons (now : Int64) (values : List String) (args : List GoValue) :
    bindValues now (unixTimestampNow :: values) args = (bindValues now values args).map (GoValue.int64 now :: ·) := by
  simp [bindValues]

section Server

variable (fold : Char → Char)

/-- Two names are the same column when they agree after case folding. -/
def columnKey (name : String) : List Char :=
  name.toList.map fold

/-- `CREATE TABLE`, after the `DROP TABLE IF EXISTS` before it. -/
def createTable (columnDefs : List String) : Except String CheckpointTable :=
  match columnDefs.mapM definedColumn with
  | none => .error "You have an error in your SQL syntax"
  | some columns =>
    if ¬ (columns.map (columnKey fold)).Nodup then .error "Duplicate column name"
    else if columns.any fun column => decide (column.length > MaxColumnNameLength) then
      .error "Identifier name is too long"
    else .ok { columns, rows := [], autoIncrement := 1 }

/-- `INSERT` of one row. A column the statement does not name holds `NULL`, except the
auto-increment key; the checkpoint's insert names all the others. -/
def insertRow (table : CheckpointTable) (statement : InsertStatement) (now : Int64) (args : List GoValue) :
    Except String CheckpointTable :=
  match insertColumnNames statement.columnList.toList with
  | none => .error "You have an error in your SQL syntax"
  | some columns =>
    if ¬ (columns.map (columnKey fold)).Nodup then .error "Column specified twice"
    else if ¬ columns.all (fun column => (table.columns.map (columnKey fold)).contains (columnKey fold column)) then
      .error "Unknown column"
    else if columns.length ≠ statement.values.length then .error "Column count doesn't match value count at row 1"
    else match bindValues now statement.values args with
      | none => .error ("sql: expected " ++ toString (statement.values.filter (· ≠ unixTimestampNow)).length ++
          " arguments, got " ++ toString args.length)
      | some stored =>
        let named := (columns.map (columnKey fold)).zip stored
        let row := table.columns.map fun column =>
          if columnKey fold column = columnKey fold "gh_ost_chk_id" then GoValue.int64 table.autoIncrement
          else (named.lookup (columnKey fold column)).getD .nil
        .ok { table with rows := table.rows ++ [row], autoIncrement := table.autoIncrement + 1 }

theorem createTable_ok {columnDefs : List String} {columns : List String}
    (defined : columnDefs.mapM definedColumn = some columns) (distinct : (columns.map (columnKey fold)).Nodup)
    (short : ∀ column ∈ columns, column.length ≤ MaxColumnNameLength) :
    createTable fold columnDefs = .ok { columns, rows := [], autoIncrement := 1 } := by
  have fits : (columns.any fun column => decide (column.length > MaxColumnNameLength)) = false := by
    simpa using short
  simp [createTable, defined, distinct, fits]

theorem createTable_of_duplicate {columnDefs : List String} {columns : List String}
    (defined : columnDefs.mapM definedColumn = some columns) (twice : ¬ (columns.map (columnKey fold)).Nodup) :
    createTable fold columnDefs = .error "Duplicate column name" := by
  simp [createTable, defined, twice]

/-- An `INSERT` that names every column of the table but its auto-increment key, each
once, with a value for each, appends the next key and the stored values. -/
theorem insertRow_ok {table : CheckpointTable} {statement : InsertStatement} {now : Int64} {args : List GoValue}
    {columns : List String} {stored : List GoValue}
    (parsed : insertColumnNames statement.columnList.toList = some columns)
    (named : table.columns = "gh_ost_chk_id" :: columns) (distinct : (table.columns.map (columnKey fold)).Nodup)
    (counted : columns.length = statement.values.length) (bound : bindValues now statement.values args = some stored) :
    insertRow fold table statement now args =
      .ok { table with rows := table.rows ++ [.int64 table.autoIncrement :: stored],
                       autoIncrement := table.autoIncrement + 1 } := by
  rw [named, List.map_cons] at distinct
  obtain ⟨keyFresh, columnsDistinct⟩ := List.nodup_cons.mp distinct
  have known : (columns.all fun column => (table.columns.map (columnKey fold)).contains (columnKey fold column)) := by
    refine List.all_eq_true.mpr fun column member => ?_
    rw [named, List.contains_iff_mem]
    exact List.mem_map_of_mem (List.mem_cons_of_mem _ member)
  have storedLength : columns.length = stored.length := by
    rw [counted, length_of_bindValues now bound]
  have row : (table.columns.map fun column =>
      if columnKey fold column = columnKey fold "gh_ost_chk_id" then GoValue.int64 table.autoIncrement
      else ((((columns.map (columnKey fold)).zip stored).lookup (columnKey fold column)).getD .nil)) =
        .int64 table.autoIncrement :: stored := by
    rw [named, List.map_cons, if_pos rfl]
    congr 1
    have differ : ∀ column ∈ columns, columnKey fold column ≠ columnKey fold "gh_ost_chk_id" :=
      fun column member same => keyFresh (same ▸ List.mem_map_of_mem member)
    rw [List.map_congr_left fun column member => if_neg (differ column member)]
    exact Lib.map_lookup_zip (columnKey fold) GoValue.nil columnsDistinct storedLength
  simp only [insertRow, parsed, columnsDistinct, known, counted, bound]
  simp [row]

end Server

end GhOst.Mysql
