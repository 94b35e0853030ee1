import GhOst.Sql.Types
import GhOst.Go.Strconv

/-! The comparison builders of `builder.go`: escaped names, value comparisons,
equality conjunctions, the prepared value tokens of a column list, and the
expansion of a tuple comparison into a disjunction of prefix equalities. -/

namespace GhOst.Sql

/-- `ValueComparisonSign`. -/
inductive ValueComparisonSign where
  | lessThan
  | lessThanOrEquals
  | equals
  | greaterThanOrEquals
  | greaterThan
  | notEquals
  deriving DecidableEq, Repr

/-- The sign as the statement text spells it. -/
def ValueComparisonSign.text : ValueComparisonSign → String
  | .lessThan => "<"
  | .lessThanOrEquals => "<="
  | .equals => "="
  | .greaterThanOrEquals => ">="
  | .greaterThan => ">"
  | .notEquals => "!="

def MaxColumnNameLength : Nat := 64

/-- `EscapeName`: a name that is a Go string literal is unquoted first; the
result is wrapped in backticks as it is. -/
def escapeName (name : String) : String :=
  "`" ++ (Go.Strconv.Unquote name).getD name ++ "`"

/-- `TruncateColumnName`'s loop over the runes of a name: once `limit` runes are
counted, the name is cut where the next rune starts. -/
def truncateRunes (limit : Nat) : List Char → Nat → List Char
  | [], _ => []
  | c :: rest, chars => if chars ≥ limit then [] else c :: truncateRunes limit rest (chars + 1)

def truncateColumnName (name : String) (limit : Nat) : String :=
  String.ofList (truncateRunes limit name.toList 0)

theorem truncateRunes_eq_take (limit : Nat) :
    ∀ (runes : List Char) (chars : Nat), truncateRunes limit runes chars = runes.take (limit - chars)
  | [], _ => by simp [truncateRunes]
  | c :: rest, chars => by
    unfold truncateRunes
    split
    · next full => rw [Nat.sub_eq_zero_of_le full, List.take_zero]
    · next below =>
      have more : limit - chars = (limit - (chars + 1)) + 1 := by omega
      rw [truncateRunes_eq_take limit rest (chars + 1), more, List.take_succ_cons]

/-- `TruncateColumnName` keeps the first `limit` characters. -/
@[simp] theorem truncateColumnName_toList (name : String) (limit : Nat) :
    (truncateColumnName name limit).toList = name.toList.take limit := by
  simp [truncateColumnName, truncateRunes_eq_take]

theorem truncateColumnName_length_le (name : String) (limit : Nat) :
    (truncateColumnName name limit).length ≤ limit := by
  rw [← String.length_toList, truncateColumnName_toList, List.length_take]
  exact Nat.min_le_left _ _

def buildValueComparison (column value : String) (comparisonSign : ValueComparisonSign) :
    Except String String :=
  if column = "" then .error "Empty column in GetValueComparison"
  else if value = "" then .error "Empty value in GetValueComparison"
  else .ok ("(" ++ escapeName column ++ " " ++ comparisonSign.text ++ " " ++ value ++ ")")

def buildEqualsComparison (columns values : List String) : Except String String := do
  if columns.length = 0 then throw "Got 0 columns in GetEqualsComparison"
  if columns.length ≠ values.length then
    throw ("Got " ++ toString columns.length ++ " columns but " ++ toString values.length ++
      " values in GetEqualsComparison")
  let comparisons ← (columns.zip values).mapM fun (column, value) =>
    buildValueComparison column value .equals
  return "(" ++ " and ".intercalate comparisons ++ ")"

def buildPreparedValues (length : Nat) : List String :=
  List.replicate length "?"

def buildEqualsPreparedComparison (columns : List String) : Except String String :=
  buildEqualsComparison columns (buildPreparedValues columns.length)

/-- The placeholder token of one column: a time-zone, ENUM or JSON conversion
wraps the `?`. -/
def columnPreparedValue (column : Column) : String :=
  match column.timezoneConversion with
  | some conversion => "convert_tz(?, '" ++ conversion.toTimezone ++ "', '+00:00')"
  | none =>
    if column.enumToTextConversion then "ELT(?, " ++ column.enumValues ++ ")"
    else if column.type = .json then "convert(? using utf8mb4)"
    else "?"

def buildColumnsPreparedValues (columns : ColumnList) : List String :=
  columns.columns.map columnPreparedValue

/-- `BuildSetPreparedClause`: `name=token` for every column. -/
def buildSetPreparedClause (columns : ColumnList) : Except String String :=
  if columns.len = 0 then .error "Got 0 columns in BuildSetPreparedClause"
  else .ok (", ".intercalate (columns.columns.map fun column =>
    escapeName column.name ++ "=" ++ columnPreparedValue column))

section RangeComparison

variable {α : Type}

/-- `<=` and `>=` are built as the strict sign plus a final full equality. -/
def splitComparisonSign : ValueComparisonSign → ValueComparisonSign × Bool
  | .lessThanOrEquals => (.lessThan, true)
  | .greaterThanOrEquals => (.greaterThan, true)
  | sign => (sign, false)

/-- One iteration of `BuildRangeComparison`'s loop: the `i`-th disjunct, guarded
by the equalities of the columns before it, and the arguments it consumes. -/
def rangeComparisonTerm (columns values : List String) (args : List α)
    (comparisonSign : ValueComparisonSign) (i : Nat) : Except String (String × List α) := do
  let rangeComparison ← buildValueComparison (columns.getD i "") (values.getD i "") comparisonSign
  if i > 0 then
    let equalitiesComparison ← buildEqualsComparison (columns.take i) (values.take i)
    return ("(" ++ equalitiesComparison ++ " AND " ++ rangeComparison ++ ")",
      args.take i ++ args[i]?.toList)
  else
    return (rangeComparison, args[i]?.toList)

/-- `BuildRangeComparison`: the predicate text and its exploded arguments. -/
def buildRangeComparison (columns values : List String) (args : List α)
    (comparisonSign : ValueComparisonSign) : Except String (String × List α) := do
  if columns.length = 0 then throw "Got 0 columns in GetRangeComparison"
  if columns.length ≠ values.length then
    throw ("Got " ++ toString columns.length ++ " columns but " ++ toString values.length ++
      " values in GetEqualsComparison")
  if columns.length ≠ args.length then
    throw ("Got " ++ toString columns.length ++ " columns but " ++ toString args.length ++
      " args in GetEqualsComparison")
  let (sign, includeEquals) := splitComparisonSign comparisonSign
  let terms ← (List.range columns.length).mapM (rangeComparisonTerm columns values args sign)
  let comparisons := terms.map Prod.fst
  let explodedArgs := (terms.map Prod.snd).flatten
  if includeEquals then
    let comparison ← buildEqualsComparison columns values
    return ("(" ++ " or ".intercalate (comparisons ++ [comparison]) ++ ")", explodedArgs ++ args)
  else
    return ("(" ++ " or ".intercalate comparisons ++ ")", explodedArgs)

def buildRangePreparedComparison (columns : ColumnList) (args : List α)
    (comparisonSign : ValueComparisonSign) : Except String (String × List α) :=
  buildRangeComparison columns.names (buildColumnsPreparedValues columns) args comparisonSign

end RangeComparison

/-- An `insert into db.table (columns) values (values)` statement by its parts: the
escaped names, the text of its column list as the source formats it, and its value
expressions in order. The layout of the rest of the text is not modelled. -/
structure InsertStatement where
  databaseName : String
  tableName : String
  columnList : String
  values : List String
  deriving DecidableEq, Repr

/-- The value expression of the checkpoint's timestamp column. -/
def unixTimestampNow : String := "unix_timestamp(now())"

/-- `CheckpointInsertQueryBuilder`: the key's columns and the prepared statement. -/
structure CheckpointInsertQueryBuilder where
  uniqueKeyColumns : ColumnList
  preparedStatement : InsertStatement

/-- `NewCheckpointQueryBuilder`: the six state columns, then the `_min` and the `_max`
column of every key column, named by `TruncateColumnName(name, MaxColumnNameLength-4)`
and written into the column list unquoted. -/
def newCheckpointQueryBuilder (databaseName tableName : String) (uniqueKeyColumns : ColumnList) :
    Except String CheckpointInsertQueryBuilder :=
  if uniqueKeyColumns.len = 0 then .error "Got 0 columns in BuildSetCheckpointInsertQuery"
  else
    let values := buildColumnsPreparedValues uniqueKeyColumns
    let minUniqueColNames := uniqueKeyColumns.names.map fun name =>
      truncateColumnName name (MaxColumnNameLength - 4) ++ "_min"
    let maxUniqueColNames := uniqueKeyColumns.names.map fun name =>
      truncateColumnName name (MaxColumnNameLength - 4) ++ "_max"
    .ok { uniqueKeyColumns,
          preparedStatement :=
            { databaseName := escapeName databaseName, tableName := escapeName tableName,
              columnList := "gh_ost_chk_timestamp, gh_ost_chk_coords, gh_ost_chk_iteration,\n" ++
                "\t\t\t gh_ost_rows_copied, gh_ost_dml_applied, gh_ost_is_cutover,\n" ++
                "  \t\t\t " ++ ", ".intercalate minUniqueColNames ++ ", " ++ ", ".intercalate maxUniqueColNames,
              values := [unixTimestampNow, "?", "?", "?", "?", "?"] ++ values ++ values } }

section CheckpointQuery

variable (decodeBytes : CharsetEncoding → List UInt8 → List UInt8)

/-- `CheckpointInsertQueryBuilder.BuildQuery`: the first half of the arguments are the
range's minimum and the second its maximum, each converted by its key column. -/
def CheckpointInsertQueryBuilder.buildQuery (b : CheckpointInsertQueryBuilder) (uniqueKeyArgs : List GoValue) :
    Except String (InsertStatement × List GoValue) :=
  if uniqueKeyArgs.length ≠ 2 * b.uniqueKeyColumns.len then
    .error "args count differs from 2 x unique key column count"
  else
    let columns := b.uniqueKeyColumns.columns
    let minArgs := List.zipWith (fun column arg => column.convertArg decodeBytes arg true) columns uniqueKeyArgs
    let maxArgs := List.zipWith (fun column arg => column.convertArg decodeBytes arg true) columns
      (uniqueKeyArgs.drop b.uniqueKeyColumns.len)
    .ok (b.preparedStatement, minArgs ++ maxArgs)

end CheckpointQuery

end GhOst.Sql
