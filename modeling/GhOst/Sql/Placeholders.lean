import GhOst.Sql.Dml
import GhOst.Sql.Condition
import GhOst.Lib.Template
import GhOst.Driver.Interpolate

/-! Which `?` of a DML statement belongs to which column. Each prepared
statement is the text of a template whose holes are tagged with the column
whose value fills them; the statement and the arguments `BuildQuery` returns
line up when no literal piece of the template holds a `?` and the `j`-th
argument is the value of the `j`-th hole's column. Only then does the driver's
left-to-right interpolation put every value where the statement expects it. -/

namespace GhOst.Sql

open Lib (Piece)

/-- A hole's tag: the column whose value fills it, and whether that value is
converted as a unique-key value (read from the row's before image). -/
abbrev HoleTag := Column × Bool

/-- The text holds no `?`. -/
def Unmarked (s : String) : Prop := '?' ∉ s.toList

instance (s : String) : Decidable (Unmarked s) := inferInstanceAs (Decidable ('?' ∉ s.toList))

/-- The texts a column's placeholder token is built from hold no `?`: its
escaped name, the time zone it is converted to and its ENUM value list. -/
def Column.TextsUnmarked (column : Column) : Prop :=
  Unmarked (escapeName column.name) ∧
    (∀ conversion ∈ column.timezoneConversion, Unmarked conversion.toTimezone) ∧
    Unmarked column.enumValues

/-! ## The templates of the statements -/

/-- A column's placeholder token (`buildColumnsPreparedValues`) as a template. -/
def columnPreparedPieces (column : Column) (tag : HoleTag) : List (Piece HoleTag) :=
  match column.timezoneConversion with
  | some conversion =>
    [.text "convert_tz(".toList, .hole tag,
      .text (", '" ++ conversion.toTimezone ++ "', '+00:00')").toList]
  | none =>
    if column.enumToTextConversion then
      [.text "ELT(".toList, .hole tag, .text (", " ++ column.enumValues ++ ")").toList]
    else if column.type = .json then
      [.text "convert(".toList, .hole tag, .text " using utf8mb4)".toList]
    else [.hole tag]

/-- `BuildEqualsPreparedComparison` of the tags' columns as a template. -/
def equalsPreparedPieces (tags : List HoleTag) : List (Piece HoleTag) :=
  .text "(".toList :: Piece.join " and ".toList (tags.map fun tag =>
      [.text ("(" ++ escapeName tag.1.name ++ " = ").toList, .hole tag, .text ")".toList]) ++
    [.text ")".toList]

def deletePieces (databaseName tableName : String) (uniqueKeyColumns : ColumnList) :
    List (Piece HoleTag) :=
  .text ("\n\t\tdelete /* gh-ost " ++ escapeName databaseName ++ "." ++ escapeName tableName ++
      " */\n\t\tfrom\n\t\t\t" ++ escapeName databaseName ++ "." ++ escapeName tableName ++
      "\n\t\twhere\n\t\t\t").toList ::
    equalsPreparedPieces (uniqueKeyColumns.columns.map (·, true))

/-- The values of the `i`-th shared column fill the token of the `i`-th mapped column. -/
def insertPieces (databaseName tableName : String) (sharedColumns mappedSharedColumns : ColumnList) :
    List (Piece HoleTag) :=
  .text ("\n\t\treplace /* gh-ost " ++ escapeName databaseName ++ "." ++ escapeName tableName ++
      " */\n\t\tinto\n\t\t\t" ++ escapeName databaseName ++ "." ++ escapeName tableName ++
      "\n\t\t\t(" ++ ", ".intercalate (mappedSharedColumns.names.map escapeName) ++
      ")\n\t\tvalues\n\t\t\t(").toList ::
    Piece.join ", ".toList (List.zipWith (fun shared mapped => columnPreparedPieces mapped (shared, false))
      sharedColumns.columns mappedSharedColumns.columns) ++
    [.text ")".toList]

def updatePieces (databaseName tableName : String)
    (sharedColumns mappedSharedColumns uniqueKeyColumns : ColumnList) : List (Piece HoleTag) :=
  .text ("\n\t\tupdate /* gh-ost " ++ escapeName databaseName ++ "." ++ escapeName tableName ++
      " */\n\t\t\t" ++ escapeName databaseName ++ "." ++ escapeName tableName ++
      "\n\t\tset\n\t\t\t").toList ::
    Piece.join ", ".toList (List.zipWith (fun shared mapped =>
      .text (escapeName mapped.name ++ "=").toList :: columnPreparedPieces mapped (shared, false))
      sharedColumns.columns mappedSharedColumns.columns) ++
    .text "\n\t\twhere\n\t\t\t".toList :: equalsPreparedPieces (uniqueKeyColumns.columns.map (·, true))

/-- The value a hole receives from a row event: a unique-key value is read from
the before image, a shared value from the after image. -/
def holeValue (decodeBytes : CharsetEncoding → List UInt8 → List UInt8) (tableColumns : ColumnList)
    (valueArgs whereArgs : List GoValue) (tag : HoleTag) : GoValue :=
  columnArg decodeBytes tableColumns (if tag.2 then whereArgs else valueArgs) tag.2 tag.1

/-- A statement and its arguments line up: the statement is the template's text,
no literal piece holds a `?`, and the `j`-th argument is the value of the
`j`-th hole. -/
structure Aligned (statement : String) (pieces : List (Piece HoleTag)) (args : List GoValue)
    (valueOf : HoleTag → GoValue) : Prop where
  rendered : statement.toList = Piece.render '?' pieces
  clean : Piece.Clean '?' pieces
  values : args = (Piece.holes pieces).map valueOf

/-- An aligned statement holds one `?` per argument. -/
theorem Aligned.count_eq {statement : String} {pieces : List (Piece HoleTag)} {args : List GoValue}
    {valueOf : HoleTag → GoValue} (aligned : Aligned statement pieces args valueOf) :
    statement.toList.count '?' = args.length := by
  rw [aligned.rendered, Piece.count_render aligned.clean, aligned.values, List.length_map]

/-- The driver sends an aligned statement with the `j`-th argument's literal in
the place of the `j`-th hole. -/
theorem Aligned.interpolateParams_eq {statement : String} {pieces : List (Piece HoleTag)}
    {args : List GoValue} {valueOf : HoleTag → GoValue} (aligned : Aligned statement pieces args valueOf)
    (encode : GoValue → Except Driver.DriverError (List Char)) {texts : List (List Char)}
    (written : args.mapM encode = .ok texts) :
    Driver.interpolateParams encode statement.toList args = .ok (Piece.fill pieces texts) := by
  have counted : (Piece.holes pieces).length = args.length := by
    rw [aligned.values, List.length_map]
  rw [aligned.rendered]
  exact Driver.interpolateParams_render encode aligned.clean counted written

/-! ## The templates spell the statements -/

@[simp] theorem render_columnPreparedPieces (column : Column) (tag : HoleTag) :
    Piece.render '?' (columnPreparedPieces column tag) = (columnPreparedValue column).toList := by
  unfold columnPreparedPieces columnPreparedValue
  cases column.timezoneConversion with
  | some conversion => simp
  | none => split_ifs <;> simp

@[simp] theorem holes_columnPreparedPieces (column : Column) (tag : HoleTag) :
    Piece.holes (columnPreparedPieces column tag) = [tag] := by
  unfold columnPreparedPieces
  cases column.timezoneConversion with
  | some conversion => simp
  | none => split_ifs <;> simp

theorem clean_columnPreparedPieces {column : Column} (unmarked : column.TextsUnmarked)
    (tag : HoleTag) : Piece.Clean '?' (columnPreparedPieces column tag) := by
  obtain ⟨_, zone, values⟩ := unmarked
  unfold columnPreparedPieces
  split
  · next conversion found =>
    have converted : Unmarked conversion.toTimezone := zone conversion found
    simp only [Unmarked] at converted
    simp [converted]
  · split_ifs
    · simp only [Unmarked] at values
      simp [values]
    · simp
    · simp

theorem render_equalsPreparedPieces (tags : List HoleTag) :
    Piece.render '?' (equalsPreparedPieces tags) =
      (renderEqualities (equalityComparisons (tags.map (·.1.name))
        (buildPreparedValues (tags.map (·.1.name)).length))).toList := by
  rw [buildPreparedValues, equalityComparisons, Lib.zip_replicate_length]
  simp [equalsPreparedPieces, renderEqualities, Comparison.render,
    ValueComparisonSign.text, Function.comp_def]

@[simp] theorem holes_equalsPreparedPieces (tags : List HoleTag) :
    Piece.holes (equalsPreparedPieces tags) = tags := by
  simp [equalsPreparedPieces, Function.comp_def, Lib.flatten_map_singleton]

theorem clean_equalsPreparedPieces {tags : List HoleTag}
    (unmarked : ∀ tag ∈ tags, Unmarked (escapeName tag.1.name)) :
    Piece.Clean '?' (equalsPreparedPieces tags) := by
  have joined : Piece.Clean '?' (Piece.join " and ".toList (tags.map fun tag =>
      [.text ("(" ++ escapeName tag.1.name ++ " = ").toList, .hole tag, .text ")".toList])) := by
    apply Piece.clean_join (by simp)
    intro group member
    obtain ⟨tag, inTags, rfl⟩ := List.mem_map.mp member
    have named := unmarked tag inTags
    simp only [Unmarked] at named
    simp [named]
  unfold equalsPreparedPieces
  exact (Piece.clean_cons_text _ _ _).mpr ⟨by simp, (Piece.clean_append _ _ _).mpr ⟨joined, by simp⟩⟩

@[simp] theorem render_insertPieces {databaseName tableName : String}
    {sharedColumns mappedSharedColumns : ColumnList} (mapped : mappedSharedColumns.len = sharedColumns.len) :
    Piece.render '?' (insertPieces databaseName tableName sharedColumns mappedSharedColumns) =
      ("\n\t\treplace /* gh-ost " ++ escapeName databaseName ++ "." ++ escapeName tableName ++
        " */\n\t\tinto\n\t\t\t" ++ escapeName databaseName ++ "." ++ escapeName tableName ++
        "\n\t\t\t(" ++ ", ".intercalate (mappedSharedColumns.names.map escapeName) ++
        ")\n\t\tvalues\n\t\t\t(" ++ ", ".intercalate (buildColumnsPreparedValues mappedSharedColumns) ++
        ")").toList := by
  have tokens : List.zipWith (fun _ mapped => (columnPreparedValue mapped).toList) sharedColumns.columns
      mappedSharedColumns.columns = mappedSharedColumns.columns.map fun mapped =>
        (columnPreparedValue mapped).toList :=
    Lib.zipWith_eq_map_right _ _ _ (by simp [ColumnList.len] at mapped; omega)
  simp [insertPieces, List.map_zipWith, tokens, buildColumnsPreparedValues, Function.comp_def]

@[simp] theorem holes_insertPieces {databaseName tableName : String}
    {sharedColumns mappedSharedColumns : ColumnList} (mapped : mappedSharedColumns.len = sharedColumns.len) :
    Piece.holes (insertPieces databaseName tableName sharedColumns mappedSharedColumns) =
      sharedColumns.columns.map (·, false) := by
  have tags : List.zipWith (fun shared _ => [(shared, false)]) sharedColumns.columns
      mappedSharedColumns.columns = sharedColumns.columns.map fun shared => [(shared, false)] :=
    Lib.zipWith_eq_map_left _ _ _ (by simp [ColumnList.len] at mapped; omega)
  simp only [insertPieces, Piece.holes_text, Piece.holes_append, Piece.holes_join, List.map_zipWith,
    holes_columnPreparedPieces, tags, Lib.flatten_map_singleton, Piece.holes_nil, List.append_nil]

@[simp] theorem render_updatePieces {databaseName tableName : String}
    {sharedColumns mappedSharedColumns uniqueKeyColumns : ColumnList}
    (mapped : mappedSharedColumns.len = sharedColumns.len) :
    Piece.render '?' (updatePieces databaseName tableName sharedColumns mappedSharedColumns uniqueKeyColumns) =
      ("\n\t\tupdate /* gh-ost " ++ escapeName databaseName ++ "." ++ escapeName tableName ++
        " */\n\t\t\t" ++ escapeName databaseName ++ "." ++ escapeName tableName ++ "\n\t\tset\n\t\t\t" ++
        ", ".intercalate (mappedSharedColumns.columns.map fun column =>
          escapeName column.name ++ "=" ++ columnPreparedValue column) ++ "\n\t\twhere\n\t\t\t" ++
        renderEqualities (equalityComparisons uniqueKeyColumns.names
          (buildPreparedValues uniqueKeyColumns.names.length))).toList := by
  have long : mappedSharedColumns.columns.length ≤ sharedColumns.columns.length := by
    simp [ColumnList.len] at mapped
    omega
  have names : (uniqueKeyColumns.columns.map (·, true)).map (·.1.name) = uniqueKeyColumns.names := by
    simp [ColumnList.names, Function.comp_def]
  simp only [updatePieces, Piece.render_text, Piece.render_append, Piece.render_join,
    render_equalsPreparedPieces, names, List.map_zipWith]
  simp only [render_columnPreparedPieces]
  rw [Lib.zipWith_eq_map_right _ _ _ long]
  simp [Function.comp_def]

@[simp] theorem holes_updatePieces {databaseName tableName : String}
    {sharedColumns mappedSharedColumns uniqueKeyColumns : ColumnList}
    (mapped : mappedSharedColumns.len = sharedColumns.len) :
    Piece.holes (updatePieces databaseName tableName sharedColumns mappedSharedColumns uniqueKeyColumns) =
      sharedColumns.columns.map (·, false) ++ uniqueKeyColumns.columns.map (·, true) := by
  have tags : List.zipWith (fun shared _ => [(shared, false)]) sharedColumns.columns
      mappedSharedColumns.columns = sharedColumns.columns.map fun shared => [(shared, false)] :=
    Lib.zipWith_eq_map_left _ _ _ (by simp [ColumnList.len] at mapped; omega)
  simp only [updatePieces, Piece.holes_text, Piece.holes_append, Piece.holes_join, List.map_zipWith,
    holes_columnPreparedPieces, holes_equalsPreparedPieces]
  simp [tags, Lib.flatten_map_singleton]

/-! ## The builders build the templates' texts -/

theorem buildSetPreparedClause_eq {columns : ColumnList} {text : String}
    (built : buildSetPreparedClause columns = .ok text) :
    text = ", ".intercalate (columns.columns.map fun column =>
      escapeName column.name ++ "=" ++ columnPreparedValue column) := by
  unfold buildSetPreparedClause at built
  split_ifs at built
  cases built
  rfl

private theorem names_tagged (columns : ColumnList) (isUniqueKeyColumn : Bool) :
    (columns.columns.map (·, isUniqueKeyColumn)).map (·.1.name) = columns.names := by
  simp [ColumnList.names, Function.comp_def]

/-- A built delete statement is the text of its template. -/
theorem newDMLDeleteQueryBuilder_eq {databaseName tableName : String}
    {tableColumns uniqueKeyColumns : ColumnList} {b : DMLDeleteQueryBuilder}
    (built : newDMLDeleteQueryBuilder databaseName tableName tableColumns uniqueKeyColumns = .ok b) :
    b.tableColumns = tableColumns ∧ b.uniqueKeyColumns = uniqueKeyColumns ∧
      b.preparedStatement.toList = Piece.render '?' (deletePieces databaseName tableName uniqueKeyColumns) := by
  unfold newDMLDeleteQueryBuilder at built
  by_cases empty : uniqueKeyColumns.len = 0
  · simp only [empty, if_true] at built
    cases built
  simp only [empty, if_false, Lib.pure_eq_ok] at built
  cases equals : buildEqualsPreparedComparison uniqueKeyColumns.names with
  | error e => simp [equals] at built
  | ok text =>
    simp only [equals, Lib.ok_bind, Except.ok.injEq] at built
    subst built
    refine ⟨rfl, rfl, ?_⟩
    rw [buildEqualsComparison_eq equals]
    simp only [deletePieces, Piece.render_text, render_equalsPreparedPieces, names_tagged,
      String.toList_append, List.append_assoc]

/-- A built insert statement is the text of its template. -/
theorem newDMLInsertQueryBuilder_eq {databaseName tableName : String}
    {tableColumns sharedColumns mappedSharedColumns : ColumnList} {b : DMLInsertQueryBuilder}
    (mapped : mappedSharedColumns.len = sharedColumns.len)
    (built : newDMLInsertQueryBuilder databaseName tableName tableColumns sharedColumns
      mappedSharedColumns = .ok b) :
    b.tableColumns = tableColumns ∧ b.sharedColumns = sharedColumns ∧
      sharedColumns.isSubsetOf tableColumns = true ∧
      b.preparedStatement.toList =
        Piece.render '?' (insertPieces databaseName tableName sharedColumns mappedSharedColumns) := by
  unfold newDMLInsertQueryBuilder at built
  by_cases subset : sharedColumns.isSubsetOf tableColumns = true
  · by_cases empty : sharedColumns.len = 0
    · simp only [subset, empty, Bool.not_true, if_true, Bool.false_eq_true, if_false,
        Lib.pure_eq_ok] at built
      cases built
    simp only [subset, empty, Bool.not_true, Bool.false_eq_true, if_false, Lib.pure_eq_ok,
      Except.ok.injEq] at built
    subst built
    exact ⟨rfl, rfl, subset, by simp [render_insertPieces mapped]⟩
  · simp only [subset, Bool.not_false, if_true] at built
    cases built

/-- A built update statement is the text of its template. -/
theorem newDMLUpdateQueryBuilder_eq {databaseName tableName : String}
    {tableColumns sharedColumns mappedSharedColumns uniqueKeyColumns : ColumnList}
    {b : DMLUpdateQueryBuilder} (mapped : mappedSharedColumns.len = sharedColumns.len)
    (built : newDMLUpdateQueryBuilder databaseName tableName tableColumns sharedColumns
      mappedSharedColumns uniqueKeyColumns = .ok b) :
    b.tableColumns = tableColumns ∧ b.sharedColumns = sharedColumns ∧
      b.uniqueKeyColumns = uniqueKeyColumns ∧ sharedColumns.isSubsetOf tableColumns = true ∧
      b.preparedStatement.toList = Piece.render '?'
        (updatePieces databaseName tableName sharedColumns mappedSharedColumns uniqueKeyColumns) := by
  unfold newDMLUpdateQueryBuilder at built
  by_cases subset : sharedColumns.isSubsetOf tableColumns = true
  swap
  · simp only [subset, Bool.not_false, if_true] at built
    cases built
  by_cases empty : sharedColumns.len = 0
  · simp only [subset, empty, Bool.not_true, if_true, Bool.false_eq_true, if_false,
      Lib.pure_eq_ok] at built
    cases built
  by_cases keyless : uniqueKeyColumns.len = 0
  · simp only [subset, empty, keyless, Bool.not_true, if_true, Bool.false_eq_true, if_false,
      Lib.pure_eq_ok] at built
    cases built
  simp only [subset, empty, keyless, Bool.not_true, Bool.false_eq_true, if_false, Lib.pure_eq_ok] at built
  split_ifs at built
  · cases built
  cases set : buildSetPreparedClause mappedSharedColumns with
  | error e => simp [set] at built
  | ok setClause =>
    cases equals : buildEqualsPreparedComparison uniqueKeyColumns.names with
    | error e => simp [set, equals] at built
    | ok equalsComparison =>
      simp only [set, equals, Lib.ok_bind, Except.ok.injEq] at built
      subst built
      refine ⟨rfl, rfl, rfl, subset, ?_⟩
      simp [render_updatePieces mapped, buildSetPreparedClause_eq set,
        buildEqualsComparison_eq equals]

/-! ## No literal piece holds a `?` -/

@[simp] theorem unmarked_append (s t : String) : Unmarked (s ++ t) ↔ Unmarked s ∧ Unmarked t := by
  simp [Unmarked, String.toList_append]

theorem unmarked_intercalate {separator : String} (apart : Unmarked separator) {parts : List String}
    (each : ∀ part ∈ parts, Unmarked part) : Unmarked (separator.intercalate parts) := by
  simp only [Unmarked, String.toList_intercalate]
  apply Lib.not_mem_intercalate apart
  intro part member
  obtain ⟨text, inParts, rfl⟩ := List.mem_map.mp member
  exact each text inParts

theorem clean_deletePieces {databaseName tableName : String} {uniqueKeyColumns : ColumnList}
    (unmarkedDatabase : Unmarked (escapeName databaseName)) (unmarkedTable : Unmarked (escapeName tableName))
    (unmarkedKey : ∀ column ∈ uniqueKeyColumns.columns, Unmarked (escapeName column.name)) :
    Piece.Clean '?' (deletePieces databaseName tableName uniqueKeyColumns) := by
  have header : Unmarked ("\n\t\tdelete /* gh-ost " ++ escapeName databaseName ++ "." ++
      escapeName tableName ++ " */\n\t\tfrom\n\t\t\t" ++ escapeName databaseName ++ "." ++
      escapeName tableName ++ "\n\t\twhere\n\t\t\t") := by
    simp only [unmarked_append, unmarkedDatabase, unmarkedTable, and_true]
    decide
  have equals : Piece.Clean '?' (equalsPreparedPieces (uniqueKeyColumns.columns.map (·, true))) := by
    apply clean_equalsPreparedPieces
    intro tag member
    obtain ⟨column, inKey, rfl⟩ := List.mem_map.mp member
    exact unmarkedKey column inKey
  exact (Piece.clean_cons_text _ _ _).mpr ⟨header, equals⟩

/-- The `i`-th mapped column's token, for each `i`, joined by commas. -/
private theorem clean_tokens (sharedColumns mappedSharedColumns : ColumnList)
    (unmarkedMapped : ∀ column ∈ mappedSharedColumns.columns, column.TextsUnmarked)
    (prefixOf : Column → List (Piece HoleTag))
    (prefixClean : ∀ column ∈ mappedSharedColumns.columns, Piece.Clean '?' (prefixOf column)) :
    Piece.Clean '?' (Piece.join ", ".toList (List.zipWith (fun shared mapped =>
      prefixOf mapped ++ columnPreparedPieces mapped (shared, false))
      sharedColumns.columns mappedSharedColumns.columns)) := by
  apply Piece.clean_join (by simp)
  intro group member
  obtain ⟨shared, _, mapped, inMapped, rfl⟩ := Lib.exists_of_mem_zipWith member
  exact (Piece.clean_append _ _ _).mpr
    ⟨prefixClean mapped inMapped, clean_columnPreparedPieces (unmarkedMapped mapped inMapped) _⟩

theorem clean_insertPieces {databaseName tableName : String} {sharedColumns mappedSharedColumns : ColumnList}
    (unmarkedDatabase : Unmarked (escapeName databaseName)) (unmarkedTable : Unmarked (escapeName tableName))
    (unmarkedMapped : ∀ column ∈ mappedSharedColumns.columns, column.TextsUnmarked) :
    Piece.Clean '?' (insertPieces databaseName tableName sharedColumns mappedSharedColumns) := by
  have names : Unmarked (", ".intercalate (mappedSharedColumns.names.map escapeName)) := by
    apply unmarked_intercalate (by decide)
    intro name member
    simp only [ColumnList.names, List.map_map, List.mem_map, Function.comp_apply] at member
    obtain ⟨column, inMapped, rfl⟩ := member
    exact (unmarkedMapped column inMapped).1
  have header : Unmarked ("\n\t\treplace /* gh-ost " ++ escapeName databaseName ++ "." ++
      escapeName tableName ++ " */\n\t\tinto\n\t\t\t" ++ escapeName databaseName ++ "." ++
      escapeName tableName ++ "\n\t\t\t(" ++ ", ".intercalate (mappedSharedColumns.names.map escapeName) ++
      ")\n\t\tvalues\n\t\t\t(") := by
    simp only [unmarked_append, unmarkedDatabase, unmarkedTable, names, and_true]
    decide
  have tokens := clean_tokens sharedColumns mappedSharedColumns unmarkedMapped (fun _ => [])
    (fun _ _ => Piece.clean_nil '?')
  simp only [List.nil_append] at tokens
  unfold insertPieces
  exact (Piece.clean_cons_text _ _ _).mpr ⟨header, (Piece.clean_append _ _ _).mpr ⟨tokens, by simp⟩⟩

theorem clean_updatePieces {databaseName tableName : String}
    {sharedColumns mappedSharedColumns uniqueKeyColumns : ColumnList}
    (unmarkedDatabase : Unmarked (escapeName databaseName)) (unmarkedTable : Unmarked (escapeName tableName))
    (unmarkedMapped : ∀ column ∈ mappedSharedColumns.columns, column.TextsUnmarked)
    (unmarkedKey : ∀ column ∈ uniqueKeyColumns.columns, Unmarked (escapeName column.name)) :
    Piece.Clean '?' (updatePieces databaseName tableName sharedColumns mappedSharedColumns
      uniqueKeyColumns) := by
  have header : Unmarked ("\n\t\tupdate /* gh-ost " ++ escapeName databaseName ++ "." ++
      escapeName tableName ++ " */\n\t\t\t" ++ escapeName databaseName ++ "." ++ escapeName tableName ++
      "\n\t\tset\n\t\t\t") := by
    simp only [unmarked_append, unmarkedDatabase, unmarkedTable, and_true]
    decide
  have assignments := clean_tokens sharedColumns mappedSharedColumns unmarkedMapped
    (fun mapped => [.text (escapeName mapped.name ++ "=").toList]) (by
      intro mapped inMapped
      have named : Unmarked (escapeName mapped.name ++ "=") := by
        simp only [unmarked_append, (unmarkedMapped mapped inMapped).1, true_and]
        decide
      exact (Piece.clean_cons_text _ _ _).mpr ⟨named, Piece.clean_nil '?'⟩)
  have equals : Piece.Clean '?' (equalsPreparedPieces (uniqueKeyColumns.columns.map (·, true))) := by
    apply clean_equalsPreparedPieces
    intro tag member
    obtain ⟨column, inKey, rfl⟩ := List.mem_map.mp member
    exact unmarkedKey column inKey
  unfold updatePieces
  refine (Piece.clean_cons_text _ _ _).mpr ⟨header, (Piece.clean_append _ _ _).mpr ⟨assignments, ?_⟩⟩
  exact (Piece.clean_cons_text _ _ _).mpr ⟨by decide, equals⟩

/-! ## The statements and their arguments line up -/

section Statements

variable (decodeBytes : CharsetEncoding → List UInt8 → List UInt8)

theorem deleteStatement_aligned {databaseName tableName : String}
    {tableColumns uniqueKeyColumns : ColumnList} (own : tableColumns.OrdinalsOwn)
    (keyInTable : uniqueKeyColumns.isSubsetOf tableColumns = true)
    (unmarkedDatabase : Unmarked (escapeName databaseName)) (unmarkedTable : Unmarked (escapeName tableName))
    (unmarkedKey : ∀ column ∈ uniqueKeyColumns.columns, Unmarked (escapeName column.name))
    {valueArgs whereArgs : List GoValue} (fullWhere : whereArgs.length = tableColumns.len)
    {b : DMLDeleteQueryBuilder}
    (built : newDMLDeleteQueryBuilder databaseName tableName tableColumns uniqueKeyColumns = .ok b) :
    ∃ uniqueKeyArgs, b.buildQuery decodeBytes whereArgs = .ok (b.preparedStatement, uniqueKeyArgs) ∧
      Aligned b.preparedStatement (deletePieces databaseName tableName uniqueKeyColumns) uniqueKeyArgs
        (holeValue decodeBytes tableColumns valueArgs whereArgs) := by
  rcases b with ⟨_, _, statement⟩
  obtain ⟨rfl, rfl, rendered⟩ := newDMLDeleteQueryBuilder_eq built
  have inside := ordinal_lt_of_isSubsetOf own keyInTable fullWhere
  refine ⟨_, DMLDeleteQueryBuilder.buildQuery_eq decodeBytes _ fullWhere inside,
    rendered, clean_deletePieces unmarkedDatabase unmarkedTable unmarkedKey, ?_⟩
  simp [deletePieces, holeValue, Function.comp_def]

theorem insertStatement_aligned {databaseName tableName : String}
    {tableColumns sharedColumns mappedSharedColumns : ColumnList} (own : tableColumns.OrdinalsOwn)
    (mapped : mappedSharedColumns.len = sharedColumns.len)
    (unmarkedDatabase : Unmarked (escapeName databaseName)) (unmarkedTable : Unmarked (escapeName tableName))
    (unmarkedMapped : ∀ column ∈ mappedSharedColumns.columns, column.TextsUnmarked)
    {valueArgs whereArgs : List GoValue} (fullValues : valueArgs.length = tableColumns.len)
    {b : DMLInsertQueryBuilder}
    (built : newDMLInsertQueryBuilder databaseName tableName tableColumns sharedColumns
      mappedSharedColumns = .ok b) :
    ∃ sharedArgs, b.buildQuery decodeBytes valueArgs = .ok (b.preparedStatement, sharedArgs) ∧
      Aligned b.preparedStatement (insertPieces databaseName tableName sharedColumns mappedSharedColumns)
        sharedArgs (holeValue decodeBytes tableColumns valueArgs whereArgs) := by
  rcases b with ⟨_, _, statement⟩
  obtain ⟨rfl, rfl, subset, rendered⟩ := newDMLInsertQueryBuilder_eq mapped built
  have inside := ordinal_lt_of_isSubsetOf own subset fullValues
  refine ⟨_, DMLInsertQueryBuilder.buildQuery_eq decodeBytes _ fullValues inside,
    rendered, clean_insertPieces unmarkedDatabase unmarkedTable unmarkedMapped, ?_⟩
  simp [holes_insertPieces mapped, holeValue, Function.comp_def]

theorem updateStatement_aligned {databaseName tableName : String}
    {tableColumns sharedColumns mappedSharedColumns uniqueKeyColumns : ColumnList}
    (own : tableColumns.OrdinalsOwn) (mapped : mappedSharedColumns.len = sharedColumns.len)
    (keyInTable : uniqueKeyColumns.isSubsetOf tableColumns = true)
    (unmarkedDatabase : Unmarked (escapeName databaseName)) (unmarkedTable : Unmarked (escapeName tableName))
    (unmarkedMapped : ∀ column ∈ mappedSharedColumns.columns, column.TextsUnmarked)
    (unmarkedKey : ∀ column ∈ uniqueKeyColumns.columns, Unmarked (escapeName column.name))
    {valueArgs whereArgs : List GoValue} (fullValues : valueArgs.length = tableColumns.len)
    (fullWhere : whereArgs.length = tableColumns.len) {b : DMLUpdateQueryBuilder}
    (built : newDMLUpdateQueryBuilder databaseName tableName tableColumns sharedColumns
      mappedSharedColumns uniqueKeyColumns = .ok b) :
    ∃ sharedArgs uniqueKeyArgs,
      b.buildQuery decodeBytes valueArgs whereArgs = .ok (b.preparedStatement, sharedArgs, uniqueKeyArgs) ∧
      Aligned b.preparedStatement
        (updatePieces databaseName tableName sharedColumns mappedSharedColumns uniqueKeyColumns)
        (sharedArgs ++ uniqueKeyArgs) (holeValue decodeBytes tableColumns valueArgs whereArgs) := by
  rcases b with ⟨_, _, _, statement⟩
  obtain ⟨rfl, rfl, rfl, subset, rendered⟩ := newDMLUpdateQueryBuilder_eq mapped built
  have insideValues := ordinal_lt_of_isSubsetOf own subset fullValues
  have insideWhere := ordinal_lt_of_isSubsetOf own keyInTable fullWhere
  refine ⟨_, _, DMLUpdateQueryBuilder.buildQuery_eq decodeBytes _ insideValues insideWhere,
    rendered, clean_updatePieces unmarkedDatabase unmarkedTable unmarkedMapped unmarkedKey, ?_⟩
  simp [holes_updatePieces mapped, holeValue, Function.comp_def]

/-- The delete, insert and update statements the builders prepare line up with
the arguments their `BuildQuery` returns (for the update, the shared arguments
then the unique-key ones), for every row image of the table's width, as long as
no name, time zone or ENUM list that reaches the text holds a `?`. -/
theorem dml_statements_align (databaseName tableName : String)
    (tableColumns sharedColumns mappedSharedColumns uniqueKeyColumns : ColumnList)
    (own : tableColumns.OrdinalsOwn) (mapped : mappedSharedColumns.len = sharedColumns.len)
    (keyInTable : uniqueKeyColumns.isSubsetOf tableColumns = true)
    (unmarkedDatabase : Unmarked (escapeName databaseName)) (unmarkedTable : Unmarked (escapeName tableName))
    (unmarkedMapped : ∀ column ∈ mappedSharedColumns.columns, column.TextsUnmarked)
    (unmarkedKey : ∀ column ∈ uniqueKeyColumns.columns, Unmarked (escapeName column.name))
    (valueArgs whereArgs : List GoValue) (fullValues : valueArgs.length = tableColumns.len)
    (fullWhere : whereArgs.length = tableColumns.len) :
    (∀ b, newDMLDeleteQueryBuilder databaseName tableName tableColumns uniqueKeyColumns = .ok b →
      ∃ uniqueKeyArgs, b.buildQuery decodeBytes whereArgs = .ok (b.preparedStatement, uniqueKeyArgs) ∧
        Aligned b.preparedStatement (deletePieces databaseName tableName uniqueKeyColumns) uniqueKeyArgs
          (holeValue decodeBytes tableColumns valueArgs whereArgs)) ∧
    (∀ b, newDMLInsertQueryBuilder databaseName tableName tableColumns sharedColumns
        mappedSharedColumns = .ok b →
      ∃ sharedArgs, b.buildQuery decodeBytes valueArgs = .ok (b.preparedStatement, sharedArgs) ∧
        Aligned b.preparedStatement (insertPieces databaseName tableName sharedColumns mappedSharedColumns)
          sharedArgs (holeValue decodeBytes tableColumns valueArgs whereArgs)) ∧
    (∀ b, newDMLUpdateQueryBuilder databaseName tableName tableColumns sharedColumns
        mappedSharedColumns uniqueKeyColumns = .ok b →
      ∃ sharedArgs uniqueKeyArgs,
        b.buildQuery decodeBytes valueArgs whereArgs = .ok (b.preparedStatement, sharedArgs, uniqueKeyArgs) ∧
        Aligned b.preparedStatement
          (updatePieces databaseName tableName sharedColumns mappedSharedColumns uniqueKeyColumns)
          (sharedArgs ++ uniqueKeyArgs) (holeValue decodeBytes tableColumns valueArgs whereArgs)) := by
  refine ⟨fun b built => ?_, fun b built => ?_, fun b built => ?_⟩
  · exact deleteStatement_aligned decodeBytes own keyInTable unmarkedDatabase unmarkedTable unmarkedKey
      fullWhere built
  · exact insertStatement_aligned decodeBytes own mapped unmarkedDatabase unmarkedTable unmarkedMapped
      fullValues built
  · exact updateStatement_aligned decodeBytes own mapped keyInTable unmarkedDatabase unmarkedTable
      unmarkedMapped unmarkedKey fullValues fullWhere built

end Statements

theorem dml_statements_align_two_columns :
    ∃ b, newDMLDeleteQueryBuilder "db" "t" (newColumnList ["id", "name"]) (newColumnList ["id"]) = .ok b ∧
      ∃ uniqueKeyArgs, b.buildQuery (fun _ bytes => bytes) [.int64 7, .string [0x61]] =
          .ok (b.preparedStatement, uniqueKeyArgs) ∧
        Aligned b.preparedStatement (deletePieces "db" "t" (newColumnList ["id"])) uniqueKeyArgs
          (holeValue (fun _ bytes => bytes) (newColumnList ["id", "name"]) [.int64 7, .string [0x61]]
            [.int64 7, .string [0x61]]) := by
  have unmarkedMapped : ∀ column ∈ (newColumnList ["id", "name"]).columns, column.TextsUnmarked := by
    simp [newColumnList, newColumns, Column.TextsUnmarked]
    decide
  have unmarkedKey : ∀ column ∈ (newColumnList ["id"]).columns, Unmarked (escapeName column.name) := by
    simp [newColumnList, newColumns]
    decide
  exact ⟨_, rfl, (dml_statements_align (fun _ bytes => bytes) "db" "t" (newColumnList ["id", "name"])
    (newColumnList ["id", "name"]) (newColumnList ["id", "name"]) (newColumnList ["id"]) rfl rfl
    (by decide) (by decide) (by decide) unmarkedMapped unmarkedKey [.int64 7, .string [0x61]]
    [.int64 7, .string [0x61]] rfl rfl).1 _ rfl⟩

/-- A `?` in the database name reaches the delete statement twice, through the
comment header and the table reference: the statement then holds two more `?`
than arguments, and the driver refuses it. -/
theorem delete_statement_question_mark_database :
    ∃ b, newDMLDeleteQueryBuilder "d?" "t" (newColumnList ["id"]) (newColumnList ["id"]) = .ok b ∧
      ∃ uniqueKeyArgs, b.buildQuery (fun _ bytes => bytes) [.int64 7] =
          .ok (b.preparedStatement, uniqueKeyArgs) ∧
        b.preparedStatement.toList.count '?' = uniqueKeyArgs.length + 2 ∧
        ∀ encode, Driver.interpolateParams encode b.preparedStatement.toList uniqueKeyArgs = .error .skip := by
  refine ⟨_, rfl, _, rfl, by decide, fun encode => Driver.interpolateParams_skip encode ?_⟩
  decide

end GhOst.Sql
