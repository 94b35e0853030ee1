import GhOst.Mysql.Schema
import GhOst.Mysql.BinlogFile
import GhOst.Logic.Naming
import GhOst.Lib.Bytes
import Mathlib.Data.List.Nodup

/-! The checkpoint table (`applier.go`). `CreateCheckpointTable` defines seven state
columns and, for each column of the migration's unique key, a `_min` and a `_max` column
named by the key column's first 60 characters. `WriteCheckpoint` inserts a row through the
statement `NewCheckpointQueryBuilder` prepares, whose column list writes those names
unquoted. `ReadLastCheckpoint` reads the latest row back with `SELECT *` and a positional
`Scan`, and parses the coordinates `String` printed. For key columns whose names are
unquoted identifiers and whose truncations are distinct columns, the row reads back as
it was written; two names that share their first 60 characters give the table one
column twice, which MySQL refuses. -/

namespace GhOst.Logic

open Sql Mysql

/-- `BinlogCoordinates` as a checkpoint holds them: file coordinates, or a GTID set of
the vendored go-mysql library. -/
inductive BinlogCoordinates (γ : Type) where
  | file (coordinates : FileBinlogCoordinates)
  | gtid (gtidSet : γ)
  deriving DecidableEq, Repr

/-- `Checkpoint`. The timestamp is the Unix time in seconds that `ReadLastCheckpoint`
reads; the range values are the `AbstractValues` of the two `ColumnValues`. -/
structure Checkpoint (γ : Type) where
  id : Int64 := 0
  timestamp : Int64 := 0
  lastTrxCoords : BinlogCoordinates γ
  iterationRangeMin : List GoValue
  iterationRangeMax : List GoValue
  iteration : Int64
  rowsCopied : Int64
  dmlApplied : Int64
  isCutover : Bool
  deriving DecidableEq, Repr

/-- The driver's argument for a Go `bool`: `1` or `0`. -/
def boolArg (b : Bool) : GoValue :=
  .int64 (if b then 1 else 0)

/-- `Scan` into an `*int64`. -/
def scanInt64 : GoValue → Option Int64
  | .int64 value => some value
  | _ => none

/-- `Scan` into a `*string`: the bytes of a text column. -/
def scanString : GoValue → Option String
  | .string value | .bytes value => String.fromUTF8? ⟨value.toArray⟩
  | _ => none

/-- `Scan` into a `*bool`: a `tinyint` holding `1` or `0`. -/
def scanBool : GoValue → Option Bool
  | .int64 value => if value = 1 then some true else if value = 0 then some false else none
  | _ => none

theorem scanString_toUTF8 (text : String) : scanString (.string text.toUTF8.toList) = some text := by
  rw [scanString, Lib.byteArray_mk_toList, Lib.fromUTF8?_toUTF8]

theorem scanBool_boolArg (b : Bool) : scanBool (boolArg b) = some b := by
  cases b <;> rfl

section Coordinates

variable {γ : Type} (gtidSetString : γ → String) (parseMysqlGTIDSet : String → Option γ)

/-- `String()` of the coordinates: `DisplayString` of file coordinates, the text of a
GTID set. -/
def BinlogCoordinates.string : BinlogCoordinates γ → String
  | .file coordinates => coordinates.displayString
  | .gtid gtidSet => gtidSetString gtidSet

/-- The parser `ReadLastCheckpoint` picks by `UseGTIDs`: `NewGTIDBinlogCoordinates` or
`ParseFileBinlogCoordinates`. -/
def parseCoordinates (useGTIDs : Bool) (coordStr : String) : Option (BinlogCoordinates γ) :=
  if useGTIDs then (parseMysqlGTIDSet coordStr).map .gtid
  else (parseFileBinlogCoordinates coordStr).map .file

/-- Coordinates that the parser of the migration's mode reads back from their `String`:
file coordinates whose file name holds no `:`, or a GTID set the library parses back. -/
def ReadsBack (useGTIDs : Bool) : BinlogCoordinates γ → Prop
  | .file coordinates => useGTIDs = false ∧ ':' ∉ coordinates.logFile.toList
  | .gtid gtidSet => useGTIDs = true ∧ parseMysqlGTIDSet (gtidSetString gtidSet) = some gtidSet

theorem parseCoordinates_string {useGTIDs : Bool} {coordinates : BinlogCoordinates γ}
    (readable : ReadsBack gtidSetString parseMysqlGTIDSet useGTIDs coordinates) :
    parseCoordinates parseMysqlGTIDSet useGTIDs (coordinates.string gtidSetString) = some coordinates := by
  cases coordinates with
  | file coordinates =>
    obtain ⟨rfl, noColon⟩ := readable
    simp [parseCoordinates, BinlogCoordinates.string,
      FileBinlogCoordinates.parseFileBinlogCoordinates_displayString coordinates noColon]
  | gtid gtidSet =>
    obtain ⟨rfl, parsed⟩ := readable
    simp [parseCoordinates, BinlogCoordinates.string, parsed]

end Coordinates

/-! ## The applier -/

/-- The seven state columns `CreateCheckpointTable` defines first. -/
def checkpointStateColumnDefs : List String :=
  ["`gh_ost_chk_id` bigint auto_increment primary key", "`gh_ost_chk_timestamp` bigint",
    "`gh_ost_chk_coords` text charset ascii", "`gh_ost_chk_iteration` bigint", "`gh_ost_rows_copied` bigint",
    "`gh_ost_dml_applied` bigint", "`gh_ost_is_cutover` tinyint(1) DEFAULT '0'"]

section Applier

variable {γ : Type} (fold : Char → Char)

/-- `CreateCheckpointTable`: the dropped table is created again, empty. A key column
without its `COLUMN_TYPE` fails before any statement runs. -/
def createCheckpointTable (uniqueKey : ColumnList) : Except String CheckpointTable := do
  let minColDefs ← uniqueKey.columns.mapM fun col =>
    if col.mySQLType = "" then
      throw ("CreateCheckpoinTable: column " ++ escapeName col.name ++
        " has no type information. applyColumnTypes must be called")
    else pure (escapeName (truncateColumnName col.name (MaxColumnNameLength - 4) ++ "_min") ++ " " ++ col.mySQLType)
  let maxColDefs := uniqueKey.columns.map fun col =>
    escapeName (truncateColumnName col.name (MaxColumnNameLength - 4) ++ "_max") ++ " " ++ col.mySQLType
  createTable fold (checkpointStateColumnDefs ++ minColDefs ++ maxColDefs)

variable (decodeBytes : CharsetEncoding → List UInt8 → List UInt8) (gtidSetString : γ → String)

/-- `WriteCheckpoint`, at the time `now` of the statement: the state values, then the
range's converted minimum and maximum. -/
def writeCheckpoint (builder : CheckpointInsertQueryBuilder) (table : CheckpointTable) (chk : Checkpoint γ)
    (now : Int64) : Except String CheckpointTable := do
  let uniqueKeyArgs := chk.iterationRangeMin ++ chk.iterationRangeMax
  let (query, uniqueKeyArgs) ← builder.buildQuery decodeBytes uniqueKeyArgs
  let args := [GoValue.string (chk.lastTrxCoords.string gtidSetString).toUTF8.toList, .int64 chk.iteration,
    .int64 chk.rowsCopied, .int64 chk.dmlApplied, boolArg chk.isCutover] ++ uniqueKeyArgs
  insertRow fold table query now args

end Applier

/-- The errors of `ReadLastCheckpoint`. -/
inductive ReadCheckpointError where
  /-- `ErrNoCheckpointFound`: "no checkpoint found in _ghk table". -/
  | noCheckpointFound
  /-- `Scan` finds another number of columns, or a value it cannot convert. -/
  | scan
  /-- The coordinates do not parse. -/
  | coordinates
  deriving DecidableEq, Repr

section Read

variable {γ : Type} (parseMysqlGTIDSet : String → Option γ)

/-- `ReadLastCheckpoint`: the row with the largest `gh_ost_chk_id`, scanned column by
column into the state fields and then into the minimum and maximum of the range. -/
def readLastCheckpoint (useGTIDs : Bool) (uniqueKey : ColumnList) (table : CheckpointTable) :
    Except ReadCheckpointError (Checkpoint γ) := do
  let some row := table.rows.getLast? | throw .noCheckpointFound
  let id :: timestamp :: coordStr :: iteration :: rowsCopied :: dmlApplied :: isCutover :: ranges := row
    | throw .scan
  if ranges.length ≠ 2 * uniqueKey.len then throw .scan
  let some id := scanInt64 id | throw .scan
  let some timestamp := scanInt64 timestamp | throw .scan
  let some coordStr := scanString coordStr | throw .scan
  let some iteration := scanInt64 iteration | throw .scan
  let some rowsCopied := scanInt64 rowsCopied | throw .scan
  let some dmlApplied := scanInt64 dmlApplied | throw .scan
  let some isCutover := scanBool isCutover | throw .scan
  let some lastTrxCoords := parseCoordinates parseMysqlGTIDSet useGTIDs coordStr | throw .coordinates
  return { id, timestamp, lastTrxCoords, iteration, rowsCopied, dmlApplied, isCutover,
           iterationRangeMin := ranges.take uniqueKey.len, iterationRangeMax := ranges.drop uniqueKey.len }

end Read

/-! ## The columns of the checkpoint table -/

/-- The state columns, as `CreateCheckpointTable` defines them. -/
def checkpointStateColumns : List String :=
  ["gh_ost_chk_id", "gh_ost_chk_timestamp", "gh_ost_chk_coords", "gh_ost_chk_iteration", "gh_ost_rows_copied",
    "gh_ost_dml_applied", "gh_ost_is_cutover"]

/-- The `_min` or `_max` column of a key column. -/
def rangeColumnName (name suffix : String) : String :=
  truncateColumnName name (MaxColumnNameLength - 4) ++ suffix

/-- The columns of the checkpoint table for a key with these column names. -/
def checkpointColumns (names : List String) : List String :=
  checkpointStateColumns ++ names.map (rangeColumnName · "_min") ++ names.map (rangeColumnName · "_max")

theorem isIdentifierChar_quote {c : Char} (identifier : isIdentifierChar c) : c ≠ '`' ∧ c ≠ '"' ∧ c ≠ '\'' := by
  refine ⟨?_, ?_, ?_⟩ <;> rintro rfl <;> simp [isIdentifierChar] at identifier

/-- An unquoted identifier is a name `EscapeName` leaves as it is. -/
theorem plainName_of_unquoted {name : String} (unquoted : UnquotedName name) : PlainName name where
  noBacktick := fun backtick => (isIdentifierChar_quote (unquoted.identifier _ backtick)).1 rfl
  notLiteral := Go.Strconv.Unquote_eq_none name fun c first =>
    isIdentifierChar_quote (unquoted.identifier c (List.mem_of_mem_head? first))
  noCommentEnd := fun contained => by
    have star := unquoted.identifier '*' (contained.subset List.mem_cons_self)
    simp [isIdentifierChar] at star

theorem unquoted_rangeColumnName {name suffix : String} (unquoted : UnquotedName name)
    (suffixUnquoted : UnquotedName suffix) : UnquotedName (rangeColumnName name suffix) where
  nonempty := by simp [rangeColumnName, String.toList_append, suffixUnquoted.nonempty]
  identifier := fun c member => by
    simp only [rangeColumnName, String.toList_append, truncateColumnName_toList, List.mem_append] at member
    rcases member with kept | suffixed
    · exact unquoted.identifier c (List.mem_of_mem_take kept)
    · exact suffixUnquoted.identifier c suffixed

theorem length_rangeColumnName (name suffix : String) :
    (rangeColumnName name suffix).length ≤ MaxColumnNameLength - 4 + suffix.length := by
  rw [rangeColumnName, String.length_append]
  have kept := truncateColumnName_length_le name (MaxColumnNameLength - 4)
  omega

/-- `CREATE TABLE` reads a plain name back from its escaped definition. -/
theorem definedColumn_escapeName {name : String} (plain : PlainName name) (type : String) :
    definedColumn (escapeName name ++ " " ++ type) = some name := by
  have lexed : lexQuotedIdentifier ((escapeName name).toList ++ (" " ++ type).toList) =
      some (name.toList, (" " ++ type).toList) :=
    lexQuotedIdentifier_escapeName plain (by simp [String.toList_append])
  have spelled : (escapeName name ++ " " ++ type).toList = (escapeName name).toList ++ (" " ++ type).toList := by
    simp [String.toList_append]
  rw [definedColumn, spelled, lexed]
  simp

section Columns

variable (fold : Char → Char) (asciiFold : ∀ c : Char, c.toNat < 128 → fold c = c.toLower)
include asciiFold

/-- A name in lower-case ASCII is its own key. -/
theorem columnKey_of_lower {name : String} (lower : ∀ c ∈ name.toList, c.toNat < 128 ∧ c.toLower = c) :
    columnKey fold name = name.toList := by
  rw [columnKey, List.map_congr_left fun c member => ?_, List.map_id]
  obtain ⟨ascii, lowered⟩ := lower c member
  rw [asciiFold c ascii, lowered]
  rfl

theorem columnKey_rangeColumnName (name : String) {suffix : String}
    (lower : ∀ c ∈ suffix.toList, c.toNat < 128 ∧ c.toLower = c) :
    columnKey fold (rangeColumnName name suffix) =
      columnKey fold (truncateColumnName name (MaxColumnNameLength - 4)) ++ suffix.toList := by
  rw [← columnKey_of_lower fold asciiFold lower]
  simp [columnKey, rangeColumnName, String.toList_append]

theorem columnKey_checkpointStateColumns :
    checkpointStateColumns.map (columnKey fold) = checkpointStateColumns.map String.toList :=
  List.map_congr_left fun name member => columnKey_of_lower fold asciiFold <| by
    simp only [checkpointStateColumns, List.mem_cons, List.not_mem_nil, or_false] at member
    rcases member with rfl | rfl | rfl | rfl | rfl | rfl | rfl <;> exact Lib.forall_mem_of_all (by decide)

omit asciiFold in
/-- A key that ends in a suffix is none of the names that do not. -/
theorem ne_of_not_suffix {name key suffix : List Char} (notSuffix : ¬ suffix.IsSuffix name) :
    name ≠ key ++ suffix := fun same => notSuffix (same ▸ List.suffix_append key suffix)

/-- The columns of the checkpoint table are distinct columns when the truncations of the
key's column names are. -/
theorem checkpointColumns_distinct {names : List String}
    (distinct : (names.map fun name => columnKey fold (truncateColumnName name (MaxColumnNameLength - 4))).Nodup) :
    ((checkpointColumns names).map (columnKey fold)).Nodup := by
  have rangeKeys : ∀ suffix : String, (∀ c ∈ suffix.toList, c.toNat < 128 ∧ c.toLower = c) →
      (names.map (rangeColumnName · suffix)).map (columnKey fold) =
        (names.map fun name => columnKey fold (truncateColumnName name (MaxColumnNameLength - 4))).map
          (· ++ suffix.toList) := by
    intro suffix lower
    simp only [List.map_map, Function.comp_def]
    exact List.map_congr_left fun name _ => columnKey_rangeColumnName fold asciiFold name lower
  have suffixed : ∀ suffix : List Char, ((names.map fun name =>
      columnKey fold (truncateColumnName name (MaxColumnNameLength - 4))).map (· ++ suffix)).Nodup :=
    fun suffix => List.Nodup.map (fun _ _ same => List.append_cancel_right same) distinct
  -- the state columns end in neither suffix, and `_min` and `_max` differ in their last letter
  have stateNotRange : ∀ a ∈ checkpointStateColumns.map String.toList, ∀ key, a ≠ key ++ "_min".toList ∧
      a ≠ key ++ "_max".toList := by
    intro a member key
    simp only [checkpointStateColumns, List.map_cons, List.map_nil, List.mem_cons, List.not_mem_nil,
      or_false] at member
    rcases member with rfl | rfl | rfl | rfl | rfl | rfl | rfl <;>
      exact ⟨ne_of_not_suffix (by decide), ne_of_not_suffix (by decide)⟩
  have minNotMax : ∀ a b : List Char, a ++ "_min".toList ≠ b ++ "_max".toList := fun a b same => by
    have last := congrArg List.getLast? same
    simp at last
  rw [checkpointColumns, List.map_append, List.map_append, columnKey_checkpointStateColumns fold asciiFold,
    rangeKeys "_min" (Lib.forall_mem_of_all (by decide)), rangeKeys "_max" (Lib.forall_mem_of_all (by decide))]
  refine List.nodup_append.mpr ⟨List.nodup_append.mpr ⟨by decide, suffixed _, ?_⟩, suffixed _, ?_⟩
  · intro a inState b inMin
    obtain ⟨key, -, rfl⟩ := List.mem_map.mp inMin
    exact (stateNotRange a inState key).1
  · intro a inFirst b inMax
    obtain ⟨key, -, rfl⟩ := List.mem_map.mp inMax
    rcases List.mem_append.mp inFirst with inState | inMin
    · exact (stateNotRange a inState key).2
    · obtain ⟨other, -, rfl⟩ := List.mem_map.mp inMin
      exact minNotMax other key

end Columns

theorem checkpointColumns_short (names : List String) :
    ∀ column ∈ checkpointColumns names, column.length ≤ MaxColumnNameLength := by
  intro column member
  simp only [checkpointColumns, List.mem_append, List.mem_map] at member
  rcases member with (state | ⟨name, -, rfl⟩) | ⟨name, -, rfl⟩
  · simp only [checkpointStateColumns, List.mem_cons, List.not_mem_nil, or_false] at state
    rcases state with rfl | rfl | rfl | rfl | rfl | rfl | rfl <;> decide
  · exact Nat.le_trans (length_rangeColumnName name "_min") (by decide)
  · exact Nat.le_trans (length_rangeColumnName name "_max") (by decide)

theorem unquoted_min : UnquotedName "_min" := ⟨by decide, Lib.forall_mem_of_all (by decide)⟩

theorem unquoted_max : UnquotedName "_max" := ⟨by decide, Lib.forall_mem_of_all (by decide)⟩

/-- `CREATE TABLE` reads back the `_min` or `_max` columns of unquoted key columns. -/
theorem mapM_definedColumn_range {columns : List Column} (unquoted : ∀ col ∈ columns, UnquotedName col.name)
    {suffix : String} (suffixUnquoted : UnquotedName suffix) :
    (columns.map fun col => escapeName (truncateColumnName col.name (MaxColumnNameLength - 4) ++ suffix) ++ " " ++
      col.mySQLType).mapM definedColumn = some (columns.map fun col => rangeColumnName col.name suffix) := by
  rw [List.mapM_map]
  refine Lib.mapM_some_of_forall columns fun col member => ?_
  dsimp only [Function.comp]
  exact definedColumn_escapeName (plainName_of_unquoted (unquoted_rangeColumnName (unquoted col member) suffixUnquoted)) _

theorem names_map_rangeColumnName (uniqueKey : ColumnList) (suffix : String) :
    uniqueKey.names.map (rangeColumnName · suffix) = uniqueKey.columns.map fun col => rangeColumnName col.name suffix := by
  simp [ColumnList.names]

/-- The column definitions `CreateCheckpointTable` sends, for a key of these columns. -/
def checkpointColumnDefs (columns : List Column) : List String :=
  checkpointStateColumnDefs ++
    (columns.map fun col => escapeName (truncateColumnName col.name (MaxColumnNameLength - 4) ++ "_min") ++ " " ++
      col.mySQLType) ++
    (columns.map fun col => escapeName (truncateColumnName col.name (MaxColumnNameLength - 4) ++ "_max") ++ " " ++
      col.mySQLType)

/-- With every key column typed, `CreateCheckpointTable` runs one `CREATE TABLE`. -/
theorem createCheckpointTable_eq (fold : Char → Char) {uniqueKey : ColumnList}
    (typed : ∀ col ∈ uniqueKey.columns, col.mySQLType ≠ "") :
    createCheckpointTable fold uniqueKey = createTable fold (checkpointColumnDefs uniqueKey.columns) := by
  -- every key column has its type, so the loop over them builds every `_min` definition
  unfold createCheckpointTable
  rw [Lib.mapM_guard_of_forall uniqueKey.columns typed]
  rfl

/-- The server reads back the checkpoint columns from their definitions. -/
theorem mapM_checkpointColumnDefs {uniqueKey : ColumnList} (unquoted : ∀ col ∈ uniqueKey.columns, UnquotedName col.name) :
    (checkpointColumnDefs uniqueKey.columns).mapM definedColumn = some (checkpointColumns uniqueKey.names) := by
  have stateDefined : checkpointStateColumnDefs.mapM definedColumn = some checkpointStateColumns := by decide
  rw [checkpointColumnDefs, List.mapM_append, List.mapM_append, stateDefined, mapM_definedColumn_range unquoted unquoted_min,
    mapM_definedColumn_range unquoted unquoted_max, checkpointColumns, names_map_rangeColumnName,
    names_map_rangeColumnName]
  rfl

/-- With every key column typed and unquoted, `CreateCheckpointTable` creates a table with
the state columns and the range columns, when those are distinct columns. -/
theorem createCheckpointTable_ok (fold : Char → Char) {uniqueKey : ColumnList}
    (unquoted : ∀ col ∈ uniqueKey.columns, UnquotedName col.name) (typed : ∀ col ∈ uniqueKey.columns, col.mySQLType ≠ "")
    (distinct : ((checkpointColumns uniqueKey.names).map (columnKey fold)).Nodup) :
    createCheckpointTable fold uniqueKey = .ok { columns := checkpointColumns uniqueKey.names, rows := [], autoIncrement := 1 } := by
  rw [createCheckpointTable_eq fold typed]
  exact createTable_ok fold (mapM_checkpointColumnDefs unquoted) distinct (checkpointColumns_short _)

set_option maxRecDepth 8000 in
/-- The column list `NewCheckpointQueryBuilder` writes reads back as the state columns
after the key, then the `_min` and the `_max` names, when these are unquoted identifiers. -/
theorem insertColumnNames_checkpointColumnList {mins maxs : List String} (minsNonempty : mins ≠ [])
    (maxsNonempty : maxs ≠ []) (unquotedMins : ∀ name ∈ mins, UnquotedName name)
    (unquotedMaxs : ∀ name ∈ maxs, UnquotedName name) :
    insertColumnNames ("gh_ost_chk_timestamp, gh_ost_chk_coords, gh_ost_chk_iteration,\n" ++
      "\t\t\t gh_ost_rows_copied, gh_ost_dml_applied, gh_ost_is_cutover,\n" ++
      "  \t\t\t " ++ ", ".intercalate mins ++ ", " ++ ", ".intercalate maxs).toList =
      some (checkpointStateColumns.tail ++ mins ++ maxs) := by
  -- the state columns end at the comma before the line break; the key's names follow
  have literal : ("gh_ost_chk_timestamp, gh_ost_chk_coords, gh_ost_chk_iteration,\n" ++
      "\t\t\t gh_ost_rows_copied, gh_ost_dml_applied, gh_ost_is_cutover,\n" ++ "  \t\t\t ").toList =
      ("gh_ost_chk_timestamp, gh_ost_chk_coords, gh_ost_chk_iteration,\n\t\t\t gh_ost_rows_copied, " ++
        "gh_ost_dml_applied, gh_ost_is_cutover").toList ++ ',' :: "\n  \t\t\t ".toList := by
    decide
  have state : insertColumnNames ("gh_ost_chk_timestamp, gh_ost_chk_coords, gh_ost_chk_iteration,\n\t\t\t gh_ost_rows_copied, " ++
      "gh_ost_dml_applied, gh_ost_is_cutover").toList = some checkpointStateColumns.tail := by
    decide
  have comma : ", ".toList = [',', ' '] := rfl
  have spelled : ("gh_ost_chk_timestamp, gh_ost_chk_coords, gh_ost_chk_iteration,\n" ++
      "\t\t\t gh_ost_rows_copied, gh_ost_dml_applied, gh_ost_is_cutover,\n" ++
      "  \t\t\t " ++ ", ".intercalate mins ++ ", " ++ ", ".intercalate maxs).toList =
      ("gh_ost_chk_timestamp, gh_ost_chk_coords, gh_ost_chk_iteration,\n\t\t\t gh_ost_rows_copied, " ++
        "gh_ost_dml_applied, gh_ost_is_cutover").toList ++
        ',' :: (("\n  \t\t\t ".toList ++ (", ".intercalate mins).toList) ++
          ',' :: ([' '] ++ (", ".intercalate maxs).toList)) := by
    rw [String.toList_append, String.toList_append, String.toList_append, literal, comma]
    simp
  rw [spelled, insertColumnNames_append_comma _ _, state, insertColumnNames_append_comma _ _,
    insertColumnNames_intercalate (Lib.forall_mem_of_all (by decide)) minsNonempty unquotedMins,
    insertColumnNames_intercalate (Lib.forall_mem_of_all (by decide)) maxsNonempty unquotedMaxs]
  simp

/-! ## Writing and reading a checkpoint -/

theorem ne_of_toList_head {a b : String} (differ : a.toList.head? ≠ b.toList.head?) : a ≠ b :=
  fun same => differ (same ▸ rfl)

theorem toList_head_append {prefixText : String} (nonempty : prefixText.toList ≠ []) (rest : String) :
    (prefixText ++ rest).toList.head? = prefixText.toList.head? := by
  rw [String.toList_append, List.head?_append_of_ne_nil _ nonempty]

/-- Every value token of a key column holds a placeholder: none is the timestamp's. -/
theorem columnPreparedValue_ne_now (column : Column) : columnPreparedValue column ≠ unixTimestampNow := by
  unfold columnPreparedValue
  split
  · apply ne_of_toList_head
    rw [String.append_assoc, toList_head_append (by decide)]
    decide
  · split
    · apply ne_of_toList_head
      rw [String.append_assoc, toList_head_append (by decide)]
      decide
    · split <;> decide

section Write

variable (decodeBytes : CharsetEncoding → List UInt8 → List UInt8)

/-- `BuildQuery` on the range's minimum and maximum converts each half by the key's columns. -/
theorem buildQuery_ok (builder : CheckpointInsertQueryBuilder) {mins maxs : List GoValue}
    (minLength : mins.length = builder.uniqueKeyColumns.len) (maxLength : maxs.length = builder.uniqueKeyColumns.len) :
    builder.buildQuery decodeBytes (mins ++ maxs) =
      .ok (builder.preparedStatement,
        List.zipWith (fun column arg => column.convertArg decodeBytes arg true) builder.uniqueKeyColumns.columns mins ++
        List.zipWith (fun column arg => column.convertArg decodeBytes arg true) builder.uniqueKeyColumns.columns maxs) := by
  have counted : (mins ++ maxs).length = 2 * builder.uniqueKeyColumns.len := by
    rw [List.length_append, minLength, maxLength]
    omega
  have firstHalf := @List.zipWith_append _ _ _ (fun column arg => column.convertArg decodeBytes arg true)
    builder.uniqueKeyColumns.columns [] mins maxs (by rw [minLength]; rfl)
  simp only [List.append_nil, List.zipWith_nil_left] at firstHalf
  simp only [CheckpointInsertQueryBuilder.buildQuery, counted, ne_eq, not_true_eq_false, if_false, firstHalf,
    List.drop_left' minLength]

/-- `NewCheckpointQueryBuilder` on a key whose columns are unquoted identifiers: its
column list names the checkpoint table's columns after the key, in order. -/
theorem newCheckpointQueryBuilder_ok (databaseName tableName : String) {uniqueKey : ColumnList}
    (keyed : uniqueKey.columns ≠ []) (unquoted : ∀ col ∈ uniqueKey.columns, UnquotedName col.name) :
    ∃ builder, newCheckpointQueryBuilder databaseName tableName uniqueKey = .ok builder ∧
      builder.uniqueKeyColumns = uniqueKey ∧
      insertColumnNames builder.preparedStatement.columnList.toList = some (checkpointColumns uniqueKey.names).tail ∧
      builder.preparedStatement.values = unixTimestampNow :: (["?", "?", "?", "?", "?"] ++
        buildColumnsPreparedValues uniqueKey ++ buildColumnsPreparedValues uniqueKey) := by
  have counted : uniqueKey.len ≠ 0 := by
    simpa [ColumnList.len] using keyed
  have namesNonempty : uniqueKey.names ≠ [] := by
    simpa [ColumnList.names] using keyed
  have unquotedRange : ∀ {suffix : String}, UnquotedName suffix →
      ∀ name ∈ uniqueKey.names.map (fun name => truncateColumnName name (MaxColumnNameLength - 4) ++ suffix),
        UnquotedName name := by
    intro suffix suffixUnquoted name member
    simp only [ColumnList.names, List.map_map, List.mem_map, Function.comp] at member
    obtain ⟨col, inKey, rfl⟩ := member
    exact unquoted_rangeColumnName (unquoted col inKey) suffixUnquoted
  rw [newCheckpointQueryBuilder, if_neg counted]
  refine ⟨_, rfl, rfl, ?_, rfl⟩
  rw [insertColumnNames_checkpointColumnList (by simpa using namesNonempty) (by simpa using namesNonempty)
    (unquotedRange unquoted_min) (unquotedRange unquoted_max)]
  rfl

variable (fold : Char → Char) {γ : Type} (gtidSetString : γ → String)

/-- `WriteCheckpoint` into the checkpoint table appends the next key, the time, the
state values and the converted range. -/
theorem writeCheckpoint_ok {uniqueKey : ColumnList} {builder : CheckpointInsertQueryBuilder}
    (keyColumns : builder.uniqueKeyColumns = uniqueKey)
    (parsed : insertColumnNames builder.preparedStatement.columnList.toList = some (checkpointColumns uniqueKey.names).tail)
    (values : builder.preparedStatement.values = unixTimestampNow :: (["?", "?", "?", "?", "?"] ++
      buildColumnsPreparedValues uniqueKey ++ buildColumnsPreparedValues uniqueKey))
    (distinct : ((checkpointColumns uniqueKey.names).map (columnKey fold)).Nodup)
    {table : CheckpointTable} (created : table.columns = checkpointColumns uniqueKey.names) (chk : Checkpoint γ)
    (minLength : chk.iterationRangeMin.length = uniqueKey.len) (maxLength : chk.iterationRangeMax.length = uniqueKey.len)
    (now : Int64) :
    writeCheckpoint fold decodeBytes gtidSetString builder table chk now =
      .ok { table with
        rows := table.rows ++ [GoValue.int64 table.autoIncrement :: GoValue.int64 now ::
          ([GoValue.string (chk.lastTrxCoords.string gtidSetString).toUTF8.toList, .int64 chk.iteration,
            .int64 chk.rowsCopied, .int64 chk.dmlApplied, boolArg chk.isCutover] ++
          (List.zipWith (fun column arg => column.convertArg decodeBytes arg true) uniqueKey.columns chk.iterationRangeMin ++
           List.zipWith (fun column arg => column.convertArg decodeBytes arg true) uniqueKey.columns chk.iterationRangeMax))],
        autoIncrement := table.autoIncrement + 1 } := by
  subst keyColumns
  have tokens : ∀ value ∈ ["?", "?", "?", "?", "?"] ++ buildColumnsPreparedValues builder.uniqueKeyColumns ++
      buildColumnsPreparedValues builder.uniqueKeyColumns, value ≠ unixTimestampNow := by
    intro value member
    simp only [buildColumnsPreparedValues, List.mem_append, List.mem_map] at member
    rcases member with (fixed | ⟨column, -, rfl⟩) | ⟨column, -, rfl⟩
    · simp only [List.mem_cons, List.not_mem_nil, or_false] at fixed
      rcases fixed with rfl | rfl | rfl | rfl | rfl <;> decide
    · exact columnPreparedValue_ne_now column
    · exact columnPreparedValue_ne_now column
  have zipLength : ∀ range : List GoValue, range.length = builder.uniqueKeyColumns.len →
      (List.zipWith (fun column arg => column.convertArg decodeBytes arg true) builder.uniqueKeyColumns.columns range).length =
        builder.uniqueKeyColumns.len := by
    intro range rangeLength
    simp [rangeLength, ColumnList.len]
  have bound := @bindValues_of_placeholders now _ ([GoValue.string (chk.lastTrxCoords.string gtidSetString).toUTF8.toList,
      .int64 chk.iteration, .int64 chk.rowsCopied, .int64 chk.dmlApplied, boolArg chk.isCutover] ++
    (List.zipWith (fun column arg => column.convertArg decodeBytes arg true) builder.uniqueKeyColumns.columns chk.iterationRangeMin ++
     List.zipWith (fun column arg => column.convertArg decodeBytes arg true) builder.uniqueKeyColumns.columns chk.iterationRangeMax))
    tokens (by simp [zipLength _ minLength, zipLength _ maxLength, buildColumnsPreparedValues, ColumnList.len])
  have counted : (checkpointColumns builder.uniqueKeyColumns.names).tail.length = builder.preparedStatement.values.length := by
    simp [values, checkpointColumns, checkpointStateColumns, buildColumnsPreparedValues, ColumnList.names]
  unfold writeCheckpoint
  dsimp only
  rw [buildQuery_ok decodeBytes builder minLength maxLength, Lib.ok_bind]
  exact insertRow_ok fold parsed (created.trans rfl) (created ▸ distinct) counted
    (by rw [values, bindValues_now_cons, bound]; rfl)

end Write

section ReadBack

variable {γ : Type} (gtidSetString : γ → String) (parseMysqlGTIDSet : String → Option γ)

/-- `ReadLastCheckpoint` after a write reads the written row back field by field. -/
theorem readLastCheckpoint_written {useGTIDs : Bool} (uniqueKey : ColumnList) (table : CheckpointTable)
    (id now : Int64) (chk : Checkpoint γ) (readable : ReadsBack gtidSetString parseMysqlGTIDSet useGTIDs chk.lastTrxCoords)
    {mins maxs : List GoValue} (minLength : mins.length = uniqueKey.len) (maxLength : maxs.length = uniqueKey.len)
    (autoIncrement : Int64) :
    readLastCheckpoint parseMysqlGTIDSet useGTIDs uniqueKey
      { table with
        rows := table.rows ++ [GoValue.int64 id :: GoValue.int64 now ::
          ([GoValue.string (chk.lastTrxCoords.string gtidSetString).toUTF8.toList, .int64 chk.iteration,
            .int64 chk.rowsCopied, .int64 chk.dmlApplied, boolArg chk.isCutover] ++ (mins ++ maxs))],
        autoIncrement } =
      .ok { chk with id, timestamp := now, iterationRangeMin := mins, iterationRangeMax := maxs } := by
  have ranges : (mins ++ maxs).length = 2 * uniqueKey.len := by
    rw [List.length_append, minLength, maxLength]
    omega
  simp [readLastCheckpoint, ranges, scanInt64, scanString_toUTF8, scanBool_boolArg, -String.toUTF8_eq_toByteArray,
    parseCoordinates_string gtidSetString parseMysqlGTIDSet readable, List.take_left' minLength,
    List.drop_left' minLength]

end ReadBack

/-- A key of one column `id`. -/
def idKey : ColumnList :=
  { columns := [{ name := "id", mySQLType := "bigint" }], ordinals := newColumnsMap [{ name := "id" }] }

/-- A checkpoint at `mysql-bin.000001:4` of the range from 1 to 100. -/
def firstCheckpoint : Checkpoint String :=
  { lastTrxCoords := .file ⟨"mysql-bin.000001", 4⟩, iterationRangeMin := [.int64 1], iterationRangeMax := [.int64 100],
    iteration := 1, rowsCopied := 100, dmlApplied := 0, isCutover := false }

theorem unquoted_idKey : ∀ col ∈ idKey.columns, UnquotedName col.name := by
  intro col member
  simp only [idKey, List.mem_singleton] at member
  subst member
  exact ⟨by decide, Lib.forall_mem_of_all (by decide)⟩

/-- Two key columns of 61 characters that share their first 60: the names are distinct
and within MySQL's 64 characters, but their `_min` columns coincide. -/
def sharedPrefixKey : ColumnList :=
  { columns := [{ name := String.ofList (List.replicate 60 'c') ++ "1", mySQLType := "int" },
      { name := String.ofList (List.replicate 60 'c') ++ "2", mySQLType := "int" }],
    ordinals := newColumnsMap [] }

/-- A key column named `a b`, a MySQL identifier that must be quoted. -/
def spacedKey : ColumnList :=
  { columns := [{ name := "a b", mySQLType := "int" }], ordinals := newColumnsMap [] }

/-- Names that agree on their first 60 characters have the same `_min` column. -/
theorem rangeColumnName_of_prefix (sharedPrefix : String) (sixty : sharedPrefix.length = MaxColumnNameLength - 4)
    (first second suffix : String) :
    rangeColumnName (sharedPrefix ++ first) suffix = rangeColumnName (sharedPrefix ++ second) suffix := by
  have cut : ∀ rest : String, truncateColumnName (sharedPrefix ++ rest) (MaxColumnNameLength - 4) = sharedPrefix := by
    intro rest
    apply String.toList_injective
    rw [truncateColumnName_toList, String.toList_append, List.take_left' (by rw [String.length_toList, sixty])]
  rw [rangeColumnName, rangeColumnName, cut, cut]

theorem sharedPrefixKey_twice : ¬ ((checkpointColumns sharedPrefixKey.names).map (columnKey Char.toLower)).Nodup := by
  have sixty : (String.ofList (List.replicate 60 'c')).length = MaxColumnNameLength - 4 := by
    rw [String.length_ofList, List.length_replicate]
    rfl
  have same := rangeColumnName_of_prefix (String.ofList (List.replicate 60 'c')) sixty "1" "2" "_min"
  have names : sharedPrefixKey.names =
      [String.ofList (List.replicate 60 'c') ++ "1", String.ofList (List.replicate 60 'c') ++ "2"] := rfl
  rw [checkpointColumns, names]
  simp only [List.map_append, List.map_cons, List.map_nil, same]
  -- the two `_min` columns are one column named twice
  intro distinct
  have twice := (List.nodup_append.mp (List.nodup_append.mp distinct).1).2.1
  simp at twice

end GhOst.Logic
