import GhOst.Sql.Builder
import GhOst.Sql.Parser

/-! `Inspector.applyColumnTypes` (`inspect.go`) classifies the columns of a table by the
`COLUMN_TYPE` text that `information_schema.columns` reports. The classification is a cascade
of substring and prefix tests, and a later test overwrites the type an earlier one set. The
unsigned flag, once set, is never reset. The tests read the whole text, the member literals
of an ENUM or a SET included, so such a column is classified by what its members spell
(`applyColumnType_enum`, `applyColumnType_set`).

Three things follow the classification: the argument `convertArg` binds, the placeholder the
DML builders write, and whether the shared-key check of `inspectOriginalAndGhostTables` takes
a key (`chooseSharedUniqueKey`). -/

namespace GhOst.Logic

open GhOst.Sql Go.Strings

/-- The fields of a row of `information_schema.columns` that `applyColumnTypes` reads. -/
structure ColumnRow where
  columnName : String
  columnType : String
  characterOctetLength : Nat
  extra : String
  characterSetName : String
  deriving DecidableEq, Repr

/-- One test of the cascade: the update is made where the test holds. -/
def updateIf (test : Bool) (update : Column → Column) (column : Column) : Column :=
  if test then update column else column

/-- The body of `applyColumnTypes` for a column the row names, test after test. -/
def applyColumnType (row : ColumnRow) (column : Column) : Column :=
  let columnType := row.columnType.toList
  { column with mySQLType := row.columnType }
    |> updateIf (Contains columnType "unsigned".toList) (fun column => { column with isUnsigned := true })
    |> updateIf (Contains columnType "mediumint".toList) (fun column => { column with type := .mediumInt })
    |> updateIf (Contains columnType "timestamp".toList) (fun column => { column with type := .timestamp })
    |> updateIf (Contains columnType "datetime".toList) (fun column => { column with type := .dateTime })
    |> updateIf (Contains columnType "json".toList) (fun column => { column with type := .json })
    |> updateIf (Contains columnType "float".toList) (fun column => { column with type := .float })
    |> updateIf (HasPrefix columnType "enum".toList)
      (fun column => { column with type := .enum, enumValues := parseEnumValues row.columnType })
    |> updateIf (HasPrefix columnType "binary".toList)
      (fun column => { column with type := .binary, binaryOctetLength := row.characterOctetLength })
    |> updateIf (Contains row.extra.toList " GENERATED".toList) (fun column => { column with isVirtual := true })
    |> updateIf (row.characterSetName != "") (fun column => { column with charset := row.characterSetName })

/-- The loop over the lists for one row: the column of the row's name, where the list has
one, is classified. `GetColumn` panics on an ordinal past the end; the list is then left as
it is. -/
def applyColumnRow (row : ColumnRow) (columnsList : ColumnList) : ColumnList :=
  match columnsList.ordinals row.columnName with
  | some ordinal => { columnsList with columns := columnsList.columns.modify ordinal (applyColumnType row) }
  | none => columnsList

/-- `applyColumnTypes`: each row of the table's `information_schema.columns`, in turn,
classifies the column of its name in every list. -/
def applyColumnTypes (rows : List ColumnRow) (columnsLists : List ColumnList) : List ColumnList :=
  rows.foldl (fun columnsLists row => columnsLists.map (applyColumnRow row)) columnsLists

/-- The check of one shared unique key: no column of it is FLOAT or JSON. -/
def uniqueKeyIsValid (columns : List Column) : Bool :=
  columns.all fun column => column.type != .float && column.type != .json

/-- The loop of `inspectOriginalAndGhostTables` over the shared unique keys: the columns of
each key are classified from the original table's rows, in place, and the first key with no
FLOAT or JSON column becomes the migration's unique key. -/
def chooseSharedUniqueKey (rows : List ColumnRow) : List UniqueKey → Except String UniqueKey
  | [] => .error "No shared unique key can be found after ALTER! Bailing out"
  | sharedUniqueKey :: sharedUniqueKeys =>
    -- the one list passed to `applyColumnTypes`
    let columns := (applyColumnTypes rows [sharedUniqueKey.columns]).headD sharedUniqueKey.columns
    if uniqueKeyIsValid columns.columns then .ok { sharedUniqueKey with columns }
    else chooseSharedUniqueKey rows sharedUniqueKeys

/-! ### The cascade, test by test -/

theorem apply_updateIf {β : Type} (f : Column → β) (test : Bool) (update : Column → Column) (column : Column) :
    f (updateIf test update column) = if test then f (update column) else f column := by
  cases test <;> rfl

/-- The type the substring tests leave, from `type`: the last test that holds wins. -/
def containedType (columnType : List Char) (type : ColumnType) : ColumnType :=
  if Contains columnType "float".toList then .float
  else if Contains columnType "json".toList then .json
  else if Contains columnType "datetime".toList then .dateTime
  else if Contains columnType "timestamp".toList then .timestamp
  else if Contains columnType "mediumint".toList then .mediumInt
  else type

/-- A prefix test overrides every substring test, and `binary` overrides `enum`. -/
theorem applyColumnType_type (row : ColumnRow) (column : Column) :
    (applyColumnType row column).type =
      if HasPrefix row.columnType.toList "binary".toList then .binary
      else if HasPrefix row.columnType.toList "enum".toList then .enum
      else containedType row.columnType.toList column.type := by
  simp only [applyColumnType, apply_updateIf Column.type, ite_self, containedType]

/-- Only the first test touches the unsigned flag, and it never clears it. -/
theorem applyColumnType_isUnsigned (row : ColumnRow) (column : Column) :
    (applyColumnType row column).isUnsigned =
      (column.isUnsigned || Contains row.columnType.toList "unsigned".toList) := by
  simp only [applyColumnType, apply_updateIf Column.isUnsigned, ite_self]
  cases Contains row.columnType.toList "unsigned".toList <;> simp

theorem applyColumnType_enumValues (row : ColumnRow) (column : Column) :
    (applyColumnType row column).enumValues =
      if HasPrefix row.columnType.toList "enum".toList then parseEnumValues row.columnType
      else column.enumValues := by
  simp only [applyColumnType, apply_updateIf Column.enumValues, ite_self]

@[simp] theorem applyColumnType_name (row : ColumnRow) (column : Column) :
    (applyColumnType row column).name = column.name := by
  simp only [applyColumnType, apply_updateIf Column.name, ite_self]

@[simp] theorem applyColumnType_timezoneConversion (row : ColumnRow) (column : Column) :
    (applyColumnType row column).timezoneConversion = column.timezoneConversion := by
  simp only [applyColumnType, apply_updateIf Column.timezoneConversion, ite_self]

@[simp] theorem applyColumnType_enumToTextConversion (row : ColumnRow) (column : Column) :
    (applyColumnType row column).enumToTextConversion = column.enumToTextConversion := by
  simp only [applyColumnType, apply_updateIf Column.enumToTextConversion, ite_self]

/-! ### ENUM and SET types -/

/-- A word without parentheses occurs in `head(members)` where it occurs in the head or in
the members. -/
theorem Contains_parenthesized (word : List Char) (plain : '(' ∉ word ∧ ')' ∉ word ∧ word ≠ [])
    (head members : List Char) :
    Contains (head ++ '(' :: (members ++ [')'])) word = (Contains head word || Contains members word) := by
  obtain ⟨opening, closing, nonempty⟩ := plain
  rw [Contains_append_cons opening, Contains_append_cons closing, Contains_nil nonempty, Bool.or_false]

theorem enum_toList (members : String) :
    ("enum(" ++ members ++ ")").toList = "enum".toList ++ '(' :: (members.toList ++ [')']) := by
  simp

theorem set_toList (members : String) :
    ("set(" ++ members ++ ")").toList = "set".toList ++ '(' :: (members.toList ++ [')']) := by
  simp

/-- The substring tests read a SET type's members only: `set` is shorter than every keyword. -/
theorem containedType_set (members : String) (type : ColumnType) :
    containedType ("set(" ++ members ++ ")").toList type = containedType members.toList type := by
  rw [set_toList]
  simp (disch := decide) only [containedType, Contains_parenthesized, Contains_of_length_lt, Bool.false_or]

/-- An `enum(...)` column is an ENUM whose values are the members, and unsigned where a
member spells `unsigned`. -/
theorem applyColumnType_enum {row : ColumnRow} {members : String} (spelled : row.columnType = "enum(" ++ members ++ ")")
    (column : Column) :
    (applyColumnType row column).type = .enum ∧
      (applyColumnType row column).isUnsigned = (column.isUnsigned || Contains members.toList "unsigned".toList) ∧
      ('\n' ∉ members.toList → (applyColumnType row column).enumValues = members) := by
  have text := enum_toList members
  rw [← spelled] at text
  have isEnum : HasPrefix row.columnType.toList "enum".toList = true := by
    rw [text]
    exact HasPrefix_append _ _
  have notBinary : HasPrefix row.columnType.toList "binary".toList = false := by
    rw [text]
    simp [HasPrefix, List.isPrefixOf]
  refine ⟨?_, ?_, fun oneLine => ?_⟩
  · rw [applyColumnType_type, notBinary, isEnum]
    rfl
  · rw [applyColumnType_isUnsigned, text, Contains_parenthesized "unsigned".toList (by decide),
      Contains_of_length_lt (by decide), Bool.false_or]
  · rw [applyColumnType_enumValues, isEnum, if_pos rfl, spelled, parseEnumValues_enum oneLine]

/-- A `set(...)` column takes the type its members spell, and is unsigned where a member
spells `unsigned`. -/
theorem applyColumnType_set {row : ColumnRow} {members : String} (spelled : row.columnType = "set(" ++ members ++ ")")
    (column : Column) :
    (applyColumnType row column).type = containedType members.toList column.type ∧
      (applyColumnType row column).isUnsigned = (column.isUnsigned || Contains members.toList "unsigned".toList) := by
  have text := set_toList members
  rw [← spelled] at text
  have notPrefix : HasPrefix row.columnType.toList "enum".toList = false ∧
      HasPrefix row.columnType.toList "binary".toList = false := by
    rw [text]
    simp [HasPrefix, List.isPrefixOf]
  refine ⟨?_, ?_⟩
  · rw [applyColumnType_type, notPrefix.1, notPrefix.2, spelled, containedType_set]
    rfl
  · rw [applyColumnType_isUnsigned, text, Contains_parenthesized "unsigned".toList (by decide),
      Contains_of_length_lt (by decide), Bool.false_or]

/-! ### The loops over the rows and the lists -/

/-- A row classifies the column of its name and leaves the others. -/
def classifyNamed (row : ColumnRow) (column : Column) : Column :=
  if column.name = row.columnName then applyColumnType row column else column

@[simp] theorem classifyNamed_name (row : ColumnRow) (column : Column) :
    (classifyNamed row column).name = column.name := by
  unfold classifyNamed
  split <;> simp

/-- Renaming nothing keeps the ordinal invariant. -/
theorem ordinalsAgree_map {list : ColumnList} (agree : list.OrdinalsAgree) {f : Column → Column}
    (keepsName : ∀ column, (f column).name = column.name) :
    ColumnList.OrdinalsAgree { list with columns := list.columns.map f } where
  own i inside := by
    simpa [keepsName] using agree.own i (by simpa using inside)
  named name i found := by
    obtain ⟨inside, atI⟩ := agree.named name i found
    exact ⟨by simpa using inside, by simpa [keepsName] using atI⟩

/-- Under the ordinal invariant one row classifies exactly the column of its name. -/
theorem applyColumnRow_of_ordinalsAgree {list : ColumnList} (agree : list.OrdinalsAgree) (row : ColumnRow) :
    applyColumnRow row list = { list with columns := list.columns.map (classifyNamed row) } := by
  unfold applyColumnRow
  cases found : list.ordinals row.columnName with
  | none =>
    -- a column of the row's name would be in the map
    have absent : ∀ column ∈ list.columns, column.name ≠ row.columnName := by
      intro column member named
      obtain ⟨i, inside, rfl⟩ := List.getElem_of_mem member
      have own := agree.own i inside
      rw [named, found] at own
      cases own
    have unchanged : list.columns.map (classifyNamed row) = list.columns := by
      rw [List.map_congr_left fun column member => by rw [classifyNamed, if_neg (absent column member)], List.map_id']
    rw [unchanged]
  | some ordinal =>
    obtain ⟨inside, named⟩ := agree.named row.columnName ordinal found
    dsimp only
    congr 1
    apply List.ext_getElem (by simp)
    intro i insideModify insideMap
    have insideI : i < list.columns.length := by simpa using insideMap
    -- the ordinal is the one position that holds the row's name
    have here : ordinal = i ↔ list.columns[i].name = row.columnName :=
      ⟨fun same => same ▸ named, fun same => agree.index_eq inside insideI (named.trans same.symm)⟩
    rw [List.getElem_modify, List.getElem_map, classifyNamed]
    by_cases atOrdinal : ordinal = i
    · rw [if_pos atOrdinal, if_pos (here.mp atOrdinal)]
    · rw [if_neg atOrdinal, if_neg (mt here.mpr atOrdinal)]

/-- The loops may be swapped: each row touches each list on its own. -/
theorem applyColumnTypes_eq_map (rows : List ColumnRow) (columnsLists : List ColumnList) :
    applyColumnTypes rows columnsLists = columnsLists.map fun list => rows.foldl (fun list row => applyColumnRow row list) list := by
  induction rows generalizing columnsLists with
  | nil => simp [applyColumnTypes]
  | cons row rows ih =>
    simp only [applyColumnTypes, List.foldl_cons] at ih ⊢
    rw [ih, List.map_map]
    rfl

/-- Over every row, each column of a list under the ordinal invariant is classified by the
rows of its name, in order. -/
theorem foldl_applyColumnRow {list : ColumnList} (agree : list.OrdinalsAgree) (rows : List ColumnRow) :
    rows.foldl (fun list row => applyColumnRow row list) list =
      { list with columns := list.columns.map fun column => rows.foldl (fun column row => classifyNamed row column) column } := by
  induction rows generalizing list with
  | nil => simp
  | cons row rows ih =>
    have next := ordinalsAgree_map agree (classifyNamed_name row)
    rw [List.foldl_cons, applyColumnRow_of_ordinalsAgree agree, ih next, List.map_map]
    rfl

/-- No row names the column: it is left as it is. -/
theorem foldl_classifyNamed_of_not_mem {rows : List ColumnRow} {column : Column}
    (absent : ∀ row ∈ rows, row.columnName ≠ column.name) :
    rows.foldl (fun column row => classifyNamed row column) column = column := by
  induction rows with
  | nil => rfl
  | cons row rows ih =>
    have different : column.name ≠ row.columnName := fun same => absent row List.mem_cons_self same.symm
    rw [List.foldl_cons, classifyNamed, if_neg different]
    exact ih fun other member => absent other (List.mem_cons_of_mem row member)

/-- Among rows of distinct names, the one row of the column's name classifies it. -/
theorem foldl_classifyNamed_of_mem {rows : List ColumnRow} (distinct : (rows.map (·.columnName)).Nodup)
    {row : ColumnRow} (member : row ∈ rows) {column : Column} (named : column.name = row.columnName) :
    rows.foldl (fun column row => classifyNamed row column) column = applyColumnType row column := by
  induction rows generalizing column with
  | nil => cases member
  | cons first rows ih =>
    rw [List.map_cons, List.nodup_cons] at distinct
    rw [List.foldl_cons]
    rcases List.mem_cons.mp member with rfl | later
    · -- the later rows name other columns
      rw [classifyNamed, if_pos named]
      refine foldl_classifyNamed_of_not_mem fun other inRest same => distinct.1 ?_
      rw [applyColumnType_name, named] at same
      rw [← same]
      exact List.mem_map_of_mem inRest
    · have different : column.name ≠ first.columnName := by
        intro same
        apply distinct.1
        rw [← same, named]
        exact List.mem_map_of_mem later
      rw [classifyNamed, if_neg different]
      exact ih distinct.2 later named

/-- A column of a key, classified FLOAT or JSON by its row, makes the check refuse the key. -/
theorem uniqueKeyIsValid_of_row {key : UniqueKey} (agree : key.columns.OrdinalsAgree) {rows : List ColumnRow}
    (distinct : (rows.map (·.columnName)).Nodup) {row : ColumnRow} (member : row ∈ rows)
    {column : Column} (inKey : column ∈ key.columns.columns) (named : column.name = row.columnName)
    (refused : (applyColumnType row column).type = .float ∨ (applyColumnType row column).type = .json) :
    uniqueKeyIsValid ((applyColumnTypes rows [key.columns]).headD key.columns).columns = false := by
  rw [applyColumnTypes_eq_map, List.map_singleton, List.headD_cons, foldl_applyColumnRow agree]
  have classified : applyColumnType row column ∈
      key.columns.columns.map fun column => rows.foldl (fun column row => classifyNamed row column) column := by
    rw [← foldl_classifyNamed_of_mem distinct member named]
    exact List.mem_map_of_mem inKey
  simp only [uniqueKeyIsValid, List.all_eq_false]
  refine ⟨_, classified, ?_⟩
  rcases refused with isFloat | isJson <;> simp [*]

/-- The key the loop takes passes the check. -/
theorem chooseSharedUniqueKey_valid {rows : List ColumnRow} {keys : List UniqueKey} {chosen : UniqueKey}
    (taken : chooseSharedUniqueKey rows keys = .ok chosen) : uniqueKeyIsValid chosen.columns.columns = true := by
  induction keys with
  | nil => cases taken
  | cons key keys ih =>
    simp only [chooseSharedUniqueKey] at taken
    split at taken
    · cases taken
      assumption
    · exact ih taken

/-! ### What follows the classification -/

/-- Members that spell `float` or `json` make a SET column FLOAT or JSON. -/
theorem containedType_refused {members : List Char} (type : ColumnType)
    (mentions : (Contains members "float".toList || Contains members "json".toList) = true) :
    containedType members type = .float ∨ containedType members type = .json := by
  unfold containedType
  cases isFloat : Contains members "float".toList with
  | true => exact .inl rfl
  | false =>
    rw [isFloat, Bool.false_or] at mentions
    exact .inr (by simp only [Bool.false_eq_true, if_false, mentions, if_true])

/-- The placeholder of a column with no time-zone or ENUM-to-text conversion. -/
theorem columnPreparedValue_of_unconverted {column : Column} (noZone : column.timezoneConversion = none)
    (noText : column.enumToTextConversion = false) :
    columnPreparedValue column = if column.type = .json then "convert(? using utf8mb4)" else "?" := by
  simp [columnPreparedValue, noZone, noText]

section Conversion

variable (decodeBytes : CharsetEncoding → List UInt8 → List UInt8)

/-- The row image carries an ENUM or SET value as an `int64`; an unsigned column binds its
decimal text. -/
theorem convertArg_int64 (column : Column) (i : Int64) (isUniqueKeyColumn : Bool) :
    column.convertArg decodeBytes (.int64 i) isUniqueKeyColumn =
      if column.isUnsigned then .string (toString i.toUInt64.toNat).toUTF8.toList else .int64 i := by
  unfold Column.convertArg
  cases column.isUnsigned <;> simp only [GoValue.asBytes]

/-- The classification of ENUM and SET columns reads their member literals: an ENUM is
unsigned where a member spells `unsigned`, and then binds the decimal text of its values; a
SET takes the type its members spell, JSON giving it the `convert(? using utf8mb4)`
placeholder, and a shared unique key with a SET column whose members spell `float` or
`json` is passed over. -/
theorem applyColumnTypes_reads_member_literals (members : String) (row : ColumnRow) (column : Column) :
    (row.columnType = "enum(" ++ members ++ ")" →
      (applyColumnType row column).type = .enum ∧
      (applyColumnType row column).isUnsigned = (column.isUnsigned || Contains members.toList "unsigned".toList) ∧
      ('\n' ∉ members.toList → (applyColumnType row column).enumValues = members) ∧
      ∀ (i : Int64) (isUniqueKeyColumn : Bool),
        (applyColumnType row column).convertArg decodeBytes (.int64 i) isUniqueKeyColumn =
          if column.isUnsigned || Contains members.toList "unsigned".toList then
            .string (toString i.toUInt64.toNat).toUTF8.toList
          else .int64 i) ∧
    (row.columnType = "set(" ++ members ++ ")" →
      (applyColumnType row column).type = containedType members.toList column.type ∧
      (applyColumnType row column).isUnsigned = (column.isUnsigned || Contains members.toList "unsigned".toList) ∧
      (column.timezoneConversion = none → column.enumToTextConversion = false →
        columnPreparedValue (applyColumnType row column) =
          if containedType members.toList column.type = .json then "convert(? using utf8mb4)" else "?") ∧
      ∀ (rows : List ColumnRow) (key : UniqueKey) (keys : List UniqueKey),
        key.columns.OrdinalsAgree → (rows.map (·.columnName)).Nodup → row ∈ rows →
        column ∈ key.columns.columns → column.name = row.columnName →
        (Contains members.toList "float".toList || Contains members.toList "json".toList) = true →
        chooseSharedUniqueKey rows (key :: keys) = chooseSharedUniqueKey rows keys) := by
  constructor
  · intro spelled
    obtain ⟨isEnum, unsigned, values⟩ := applyColumnType_enum spelled column
    refine ⟨isEnum, unsigned, values, fun i isUniqueKeyColumn => ?_⟩
    rw [convertArg_int64, unsigned]
  · intro spelled
    obtain ⟨classified, unsigned⟩ := applyColumnType_set spelled column
    refine ⟨classified, unsigned, fun noZone noText => ?_, fun rows key keys agree distinct member inKey named mentions => ?_⟩
    · rw [columnPreparedValue_of_unconverted (by simpa using noZone) (by simpa using noText), classified]
    · -- the key's column of the row's name is FLOAT or JSON, so the check refuses the key
      have refused := uniqueKeyIsValid_of_row agree distinct member inKey named
        (classified ▸ containedType_refused column.type mentions)
      simp only [chooseSharedUniqueKey, refused, Bool.false_eq_true, if_false]

end Conversion

/-- An ENUM whose members spell `unsigned` and `float`, a SET whose member spells `json`, and
a unique key on the SET column. -/
def statusRow : ColumnRow := ⟨"status", "enum('unsigned','float')", 0, "", "utf8mb4"⟩

def tagsRow : ColumnRow := ⟨"tags", "set('json')", 0, "", "utf8mb4"⟩

def tagsKey : UniqueKey := { name := "tags_uidx", columns := newColumnList ["tags"] }

/-- `enum('unsigned','float')` is an unsigned ENUM, and `set('json')` is a JSON column: the
one shared key on it is refused and the migration bails out. -/
theorem enum_and_set_members_misclassify :
    (applyColumnType statusRow { name := "status" }).type = .enum ∧
      (applyColumnType statusRow { name := "status" }).isUnsigned = true ∧
      (applyColumnType tagsRow { name := "tags" }).type = .json ∧
      chooseSharedUniqueKey [tagsRow] [tagsKey] = .error "No shared unique key can be found after ALTER! Bailing out" := by
  have enumCase := (applyColumnTypes_reads_member_literals (fun _ bytes => bytes) "'unsigned','float'" statusRow
    { name := "status" }).1 (by decide)
  have setCase := (applyColumnTypes_reads_member_literals (fun _ bytes => bytes) "'json'" tagsRow
    { name := "tags" }).2 (by decide)
  have agree : tagsKey.columns.OrdinalsAgree := newColumnsMap_ordinalsAgree (by decide)
  refine ⟨enumCase.1, by rw [enumCase.2.1]; decide, by rw [setCase.1]; decide, ?_⟩
  rw [setCase.2.2.2 [tagsRow] tagsKey [] agree (by decide) (by decide) (by decide) rfl (by decide)]
  rfl

end GhOst.Logic
