import GhOst.Logic.Convergence

/-! `Revert` replays the binlog from the cut-over checkpoint onto the old table, as a
migration replays it onto the ghost table, with the migrated table as the original and
the old table as the ghost. Which columns it writes is `getSharedColumns` of the two
tables, through `ColumnRenameMap`; `Revert` calls `validateAlterStatement` on the
migrator's parser, which has parsed no ALTER in revert mode, so the map is empty.

The statements are modelled at the level of columns here, because the old table may
have columns the replay does not write: `replace into` sets the columns it names and
gives the others their defaults, and `update ... set` leaves the others as they were.
A row is its value in each column, by name. -/

namespace GhOst.Logic

/-- `strings.EqualFold`, on ASCII letters. -/
def equalFold (a b : String) : Bool :=
  a.toLower == b.toLower

/-- The column renames and drops `AlterTableParser` finds in an ALTER, each rename from
the old name to the new. -/
structure AlterTableParser where
  columnRenameMap : List (String × String)
  droppedColumns : List String
  deriving DecidableEq, Repr

/-- `NewAlterTableParser`: nothing parsed yet. -/
def newAlterTableParser : AlterTableParser := ⟨[], []⟩

/-- `GetNonTrivialRenames`. -/
def AlterTableParser.getNonTrivialRenames (parser : AlterTableParser) : List (String × String) :=
  parser.columnRenameMap.filter fun (column, renamed) => column != renamed

/-- `validateAlterStatement`, once renames are approved: the `ColumnRenameMap` (left
empty without renames) and the `DroppedColumnsMap` it puts in the context. -/
def validateAlterStatement (parser : AlterTableParser) : List (String × String) × List String :=
  (if parser.getNonTrivialRenames.isEmpty then [] else parser.getNonTrivialRenames, parser.droppedColumns)

/-- A Go `map[string]string` read `m[key]`: the empty string for an absent key. -/
def mapLookup (map : List (String × String)) (key : String) : String :=
  (map.lookup key).getD ""

/-- `getSharedColumns`: the original table's columns, in its order, that the ghost table
has under the same name or under the name the rename map gives them, less dropped and
virtual columns; and the names they have in the ghost table. -/
def getSharedColumns (originalColumns ghostColumns originalVirtualColumns ghostVirtualColumns : List String)
    (columnRenameMap : List (String × String)) (droppedColumns : List String) : List String × List String :=
  let isSharedColumn (originalColumn : String) : Bool :=
    ghostColumns.any (fun ghostColumn => equalFold originalColumn ghostColumn ||
      equalFold (mapLookup columnRenameMap originalColumn) ghostColumn) &&
    !droppedColumns.any (equalFold originalColumn) &&
    !originalVirtualColumns.any (equalFold originalColumn) &&
    !ghostVirtualColumns.any (equalFold originalColumn)
  let sharedColumnNames := originalColumns.filter isSharedColumn
  (sharedColumnNames, sharedColumnNames.map fun name => (columnRenameMap.lookup name).getD name)

/-- A row: its value in each column, by name. -/
abbrev NamedRow := String → Int

section GhostColumns

variable (keyColumns : List String) (defaults : NamedRow)

/-- The row's values of the migration key. -/
def keyOf (row : NamedRow) : List Int :=
  keyColumns.map row

/-- `delete from ghost where` the key `= ?`. -/
def deleteByKey (key : List Int) (rows : List NamedRow) : List NamedRow :=
  rows.filter fun row => keyOf keyColumns row != key

/-- `replace into ghost (columns) values (?)`: a row with the key goes, and the new
row's other columns take their defaults. -/
def replaceColumns (assignments : List (String × Int)) (rows : List NamedRow) : List NamedRow :=
  let row : NamedRow := fun column => (assignments.lookup column).getD (defaults column)
  deleteByKey keyColumns (keyOf keyColumns row) rows ++ [row]

/-- `update ghost set columns = ? where` the key `= ?`: the other columns stay. -/
def updateColumns (assignments : List (String × Int)) (key : List Int) (rows : List NamedRow) : List NamedRow :=
  rows.map fun row =>
    if keyOf keyColumns row = key then fun column => (assignments.lookup column).getD (row column) else row

/-- `buildDMLEventQuery` and its statements, for a row event of the original table:
the shared columns' values go to the ghost table under their mapped names. -/
def applyColumnsEvent (shared mapped : List String) (rows : List NamedRow) : RowEvent NamedRow → List NamedRow
  | .insert newValues => replaceColumns keyColumns defaults (mapped.zip (shared.map newValues)) rows
  | .delete whereValues => deleteByKey keyColumns (keyOf keyColumns whereValues) rows
  | .update whereValues newValues =>
    if keyOf keyColumns whereValues ≠ keyOf keyColumns newValues then
      replaceColumns keyColumns defaults (mapped.zip (shared.map newValues))
        (deleteByKey keyColumns (keyOf keyColumns whereValues) rows)
    else updateColumns keyColumns (mapped.zip (shared.map newValues)) (keyOf keyColumns whereValues) rows

end GhostColumns

/-- `Revert`'s replay: the shared columns of the migrated table (the original here) and
the old table (the ghost) under the context `validateAlterStatement` leaves from the
migrator's parser, which has parsed nothing; then every event since the cut-over
checkpoint, in order. -/
def revertReplay (migratedColumns oldColumns migratedVirtualColumns oldVirtualColumns keyColumns : List String)
    (defaults : NamedRow) (oldRows : List NamedRow) (events : List (RowEvent NamedRow)) : List NamedRow :=
  let (columnRenameMap, droppedColumns) := validateAlterStatement newAlterTableParser
  let (shared, mapped) := getSharedColumns migratedColumns oldColumns migratedVirtualColumns oldVirtualColumns
    columnRenameMap droppedColumns
  events.foldl (applyColumnsEvent keyColumns defaults shared mapped) oldRows

/-! A column of the old table that no statement names keeps what it had, or takes its
default in a row a `replace into` writes. -/

section Unwritten

variable {keyColumns : List String} {defaults : NamedRow} (column : String)

/-- Every row's value in `column` is the column's default or the value a row of
`oldRows` had there. -/
def ColumnFrom (defaults : NamedRow) (oldRows rows : List NamedRow) : Prop :=
  ∀ row ∈ rows, row column = defaults column ∨ ∃ old ∈ oldRows, row column = old column

theorem lookup_zip_eq_none {names : List String} (values : List Int) (absent : column ∉ names) :
    (names.zip values).lookup column = none := by
  rw [List.lookup_eq_none_iff]
  intro pair member
  have named : pair.1 ∈ names := (List.of_mem_zip member).1
  simp only [bne_iff_ne, ne_eq]
  rintro rfl
  exact absent named

theorem columnFrom_deleteByKey {oldRows rows : List NamedRow} (key : List Int)
    (kept : ColumnFrom column defaults oldRows rows) :
    ColumnFrom column defaults oldRows (deleteByKey keyColumns key rows) :=
  fun row member => kept row (List.mem_filter.mp member).1

theorem columnFrom_replaceColumns {oldRows rows : List NamedRow} {assignments : List (String × Int)}
    (unassigned : assignments.lookup column = none) (kept : ColumnFrom column defaults oldRows rows) :
    ColumnFrom column defaults oldRows (replaceColumns keyColumns defaults assignments rows) := by
  intro row member
  rcases List.mem_append.mp member with deleted | written
  · exact columnFrom_deleteByKey column _ kept row deleted
  · -- the new row: the column has no assignment, so it takes its default
    left
    simp [List.mem_singleton.mp written, unassigned]

theorem columnFrom_updateColumns {oldRows rows : List NamedRow} {assignments : List (String × Int)}
    (key : List Int) (unassigned : assignments.lookup column = none)
    (kept : ColumnFrom column defaults oldRows rows) :
    ColumnFrom column defaults oldRows (updateColumns keyColumns assignments key rows) := by
  intro row member
  obtain ⟨before, present, rfl⟩ := List.mem_map.mp member
  have same : (if keyOf keyColumns before = key then
      fun column => (assignments.lookup column).getD (before column) else before) column = before column := by
    split <;> simp [unassigned]
  rw [same]
  exact kept before present

/-- The step: an event leaves the column as it found it, whatever its kind, when the
column is none of those the shared columns map to. -/
theorem columnFrom_applyColumnsEvent {shared mapped : List String} {oldRows rows : List NamedRow}
    (unmapped : column ∉ mapped) (event : RowEvent NamedRow) (kept : ColumnFrom column defaults oldRows rows) :
    ColumnFrom column defaults oldRows (applyColumnsEvent keyColumns defaults shared mapped rows event) := by
  have unassigned (values : List Int) := lookup_zip_eq_none column values unmapped
  cases event with
  | insert newValues => exact columnFrom_replaceColumns column (unassigned _) kept
  | delete whereValues => exact columnFrom_deleteByKey column _ kept
  | update whereValues newValues =>
    simp only [applyColumnsEvent]
    split
    · exact columnFrom_replaceColumns column (unassigned _) (columnFrom_deleteByKey column _ kept)
    · exact columnFrom_updateColumns column _ (unassigned _) kept

/-- The run: over a whole replay, by induction on the events. -/
theorem columnFrom_foldl {shared mapped : List String} {oldRows : List NamedRow} (unmapped : column ∉ mapped)
    (events : List (RowEvent NamedRow)) {rows : List NamedRow} (kept : ColumnFrom column defaults oldRows rows) :
    ColumnFrom column defaults oldRows (events.foldl (applyColumnsEvent keyColumns defaults shared mapped) rows) := by
  induction events generalizing rows with
  | nil => exact kept
  | cons event rest ih => exact ih (columnFrom_applyColumnsEvent column unmapped event kept)

end Unwritten

/-- Without renames the shared columns keep their own names in the ghost table. -/
theorem getSharedColumns_snd_of_no_renames (originalColumns ghostColumns originalVirtualColumns
    ghostVirtualColumns droppedColumns : List String) :
    (getSharedColumns originalColumns ghostColumns originalVirtualColumns ghostVirtualColumns [] droppedColumns).2 =
      (getSharedColumns originalColumns ghostColumns originalVirtualColumns ghostVirtualColumns [] droppedColumns).1 := by
  simp [getSharedColumns]

theorem getSharedColumns_fst_subset (originalColumns ghostColumns originalVirtualColumns ghostVirtualColumns : List String)
    (columnRenameMap : List (String × String)) (droppedColumns : List String) :
    (getSharedColumns originalColumns ghostColumns originalVirtualColumns ghostVirtualColumns columnRenameMap
      droppedColumns).1 ⊆ originalColumns :=
  List.filter_subset_self _

@[simp] theorem validateAlterStatement_newAlterTableParser :
    validateAlterStatement newAlterTableParser = ([], []) := rfl

/-- `Revert` writes only columns of the old table that the migrated table has under the
same name: in any other, every row after the replay holds the column's default or what
a row of the old table held before it, whatever the events. -/
theorem revertReplay_column_unwritten (migratedColumns oldColumns migratedVirtualColumns oldVirtualColumns
    keyColumns : List String) (defaults : NamedRow) (oldRows : List NamedRow) (events : List (RowEvent NamedRow))
    {column : String} (unnamed : column ∉ migratedColumns) :
    ColumnFrom column defaults oldRows
      (revertReplay migratedColumns oldColumns migratedVirtualColumns oldVirtualColumns keyColumns defaults oldRows
        events) := by
  have unmapped : column ∉ (getSharedColumns migratedColumns oldColumns migratedVirtualColumns oldVirtualColumns
      [] []).2 := by
    rw [getSharedColumns_snd_of_no_renames]
    exact fun shared => unnamed (getSharedColumns_fst_subset _ _ _ _ _ _ shared)
  exact columnFrom_foldl column unmapped events (fun row member => Or.inr ⟨row, member, rfl⟩)

/-! ## Columns shared by name converge

Seen through its key and its shared columns, the old table is the ghost table of a
migration whose original is the migrated table, and the column-level statements are
the ghost statements of `GhOst.Logic.Replay`. Replay onto a table that already holds
exactly the original's rows keeps it exact (`eventView_exact`), so when the old table
agrees with the migrated table at the cut-over, `Revert` brings every shared column of
every row up to date. -/

/-- The migration `Revert` runs, as the replay sees it: the migrated table's rows by
the migration key, and a row of the old table by its key and its shared columns. -/
def revertMigration (keyColumns shared : List String) : Migration NamedRow (List Int) (List Int × List Int) where
  uniqueKey := keyOf keyColumns
  sharedRow row := (keyOf keyColumns row, shared.map row)
  ghostUniqueKey := Prod.fst
  ghostUniqueKey_sharedRow _ := rfl

@[simp] theorem revertMigration_ghostUniqueKey (keyColumns shared : List String) :
    (revertMigration keyColumns shared).ghostUniqueKey = Prod.fst := rfl

section Refinement

variable {keyColumns shared : List String} (defaults : NamedRow)

/-- The row a `replace into` or an `update` writes from an event's row agrees with
that row in the key and the shared columns, when the key's columns are shared. -/
theorem sharedRow_assigned (covered : keyColumns ⊆ shared) (newValues base : NamedRow) :
    (revertMigration keyColumns shared).sharedRow
        (fun column => ((shared.zip (shared.map newValues)).lookup column).getD (base column)) =
      (revertMigration keyColumns shared).sharedRow newValues := by
  have assigned : ∀ column ∈ shared,
      ((shared.zip (shared.map newValues)).lookup column).getD (base column) = newValues column :=
    fun column member => by rw [Lib.lookup_zip_map newValues member, Option.getD_some]
  simp only [revertMigration, keyOf, Prod.mk.injEq]
  exact ⟨List.map_congr_left fun column member => assigned column (covered member),
    List.map_congr_left assigned⟩

theorem map_deleteByKey (key : List Int) (rows : List NamedRow) :
    (deleteByKey keyColumns key rows).map (revertMigration keyColumns shared).sharedRow =
      Mysql.deleteWhere (fun row => (revertMigration keyColumns shared).ghostUniqueKey row = key)
        (rows.map (revertMigration keyColumns shared).sharedRow) := by
  unfold deleteByKey Mysql.deleteWhere
  rw [List.filter_map]
  -- the same filter, once as `!=` on the key and once as the negated equality
  congr 2
  funext row
  by_cases same : keyOf keyColumns row = key <;> simp [revertMigration, same]

theorem map_replaceColumns (covered : keyColumns ⊆ shared) (newValues : NamedRow) (rows : List NamedRow) :
    (replaceColumns keyColumns defaults (shared.zip (shared.map newValues)) rows).map
        (revertMigration keyColumns shared).sharedRow =
      Mysql.replace (revertMigration keyColumns shared).ghostUniqueKey
        ((revertMigration keyColumns shared).sharedRow newValues)
        (rows.map (revertMigration keyColumns shared).sharedRow) := by
  have written := sharedRow_assigned covered newValues defaults
  have key := congrArg Prod.fst written
  simp only [replaceColumns, List.map_append, List.map_cons, List.map_nil, map_deleteByKey, written]
  simp only [revertMigration] at key ⊢
  simp [Mysql.deleteWhere, Mysql.replace, key]

theorem map_updateColumns (covered : keyColumns ⊆ shared) (newValues : NamedRow) (key : List Int)
    (rows : List NamedRow) :
    (updateColumns keyColumns (shared.zip (shared.map newValues)) key rows).map
        (revertMigration keyColumns shared).sharedRow =
      (rows.map (revertMigration keyColumns shared).sharedRow).map fun old =>
        if (revertMigration keyColumns shared).ghostUniqueKey old = key then
          (revertMigration keyColumns shared).sharedRow newValues
        else old := by
  simp only [updateColumns, List.map_map]
  refine List.map_congr_left fun row _ => ?_
  by_cases selected : keyOf keyColumns row = key
  · simp only [Function.comp_apply, selected, if_true]
    rw [sharedRow_assigned covered newValues row]
    simp [revertMigration, selected]
  · simp [revertMigration, selected]

/-- The step: each event's column-level statements, seen through the key and the
shared columns, leave what the replay's ghost statements leave, whenever those
succeed. -/
theorem applyColumnsEvent_refines (covered : keyColumns ⊆ shared) (rows : List NamedRow) (event : RowEvent NamedRow)
    {updated : List (List Int × List Int)}
    (ran : applyDMLEvent (revertMigration keyColumns shared) Prod.fst event
      (rows.map (revertMigration keyColumns shared).sharedRow) = .ok updated) :
    (applyColumnsEvent keyColumns defaults shared shared rows event).map (revertMigration keyColumns shared).sharedRow =
      updated := by
  cases event with
  | insert newValues =>
    simp only [applyDMLEvent, buildDMLEventQuery, List.foldlM_cons, List.foldlM_nil, applyStatement, Lib.ok_bind,
      Lib.pure_eq_ok, Except.ok.injEq] at ran
    rw [← ran]
    exact map_replaceColumns defaults covered newValues rows
  | delete whereValues =>
    simp only [applyDMLEvent, buildDMLEventQuery, List.foldlM_cons, List.foldlM_nil, applyStatement, Lib.ok_bind,
      Lib.pure_eq_ok, Except.ok.injEq] at ran
    rw [← ran]
    exact map_deleteByKey (keyOf keyColumns whereValues) rows
  | update whereValues newValues =>
    simp only [applyDMLEvent, buildDMLEventQuery] at ran
    simp only [applyColumnsEvent]
    split at ran
    · -- the key changes: a delete, then a replace
      next changed =>
      rw [if_pos (show keyOf keyColumns whereValues ≠ keyOf keyColumns newValues from changed)]
      simp only [List.foldlM_cons, List.foldlM_nil, applyStatement, Lib.ok_bind, Lib.pure_eq_ok,
        Except.ok.injEq] at ran
      rw [← ran, map_replaceColumns defaults covered newValues, map_deleteByKey]
      rfl
    · -- the key stays: one update, which succeeded
      next kept =>
      rw [if_neg (show ¬keyOf keyColumns whereValues ≠ keyOf keyColumns newValues from kept)]
      simp only [List.foldlM_cons, List.foldlM_nil, applyStatement, Mysql.updateWhere] at ran
      split at ran
      · simp only [Lib.ok_bind, Lib.pure_eq_ok, Except.ok.injEq] at ran
        rw [← ran, map_updateColumns covered newValues]
        simp only [decide_eq_true_eq]
        rfl
      · cases ran

/-- The run: from an old table that holds, key by key, exactly the original's rows in
the key and the shared columns, every valid event keeps it so; by induction on the
events, with the replay's `applyDMLEvent_view` and `eventView_exact` at each one. -/
theorem applyColumnsEvents_exact (covered : keyColumns ⊆ shared) {initial : List Int → Option NamedRow}
    (keyed : WellKeyed (revertMigration keyColumns shared) initial) {events : List (RowEvent NamedRow)}
    (valid : ValidRun (revertMigration keyColumns shared) initial events) {rows : List NamedRow}
    (unique : Mysql.Unique (keyOf keyColumns) rows)
    (exact : ∀ key, (Mysql.lookup (keyOf keyColumns) rows key).map (revertMigration keyColumns shared).sharedRow =
      (initial key).map (revertMigration keyColumns shared).sharedRow) :
    Mysql.Unique (keyOf keyColumns) (events.foldl (applyColumnsEvent keyColumns defaults shared shared) rows) ∧
      ∀ key, (Mysql.lookup (keyOf keyColumns) (events.foldl (applyColumnsEvent keyColumns defaults shared shared) rows)
          key).map (revertMigration keyColumns shared).sharedRow =
        (stateAt (revertMigration keyColumns shared) initial events events.length key).map
          (revertMigration keyColumns shared).sharedRow := by
  induction events generalizing initial rows with
  | nil => exact ⟨unique, exact⟩
  | cons event rest ih =>
    obtain ⟨first, later⟩ := validRun_cons _ valid
    -- the old table as the ghost table of the replay: its rows by key and shared columns
    have keeps : ∀ row, ((revertMigration keyColumns shared).sharedRow row).1 = keyOf keyColumns row :=
      fun _ => rfl
    have viewUnique : Mysql.Unique Prod.fst (rows.map (revertMigration keyColumns shared).sharedRow) :=
      (Mysql.unique_map _ keeps rows).mpr unique
    have view : Mysql.lookup Prod.fst (rows.map (revertMigration keyColumns shared).sharedRow) =
        fun key => (initial key).map (revertMigration keyColumns shared).sharedRow := by
      funext key
      rw [Mysql.lookup_map _ keeps]
      exact exact key
    obtain ⟨updated, ran, updatedUnique, updatedView⟩ :=
      applyDMLEvent_view (revertMigration keyColumns shared) event viewUnique
    have refined := applyColumnsEvent_refines defaults covered rows event ran
    rw [revertMigration_ghostUniqueKey] at updatedUnique updatedView
    rw [view, eventView_exact _ first] at updatedView
    refine ih (wellKeyed_apply _ keyed event) later ?_ ?_
    · rw [← Mysql.unique_map _ keeps, refined]
      exact updatedUnique
    · intro key
      rw [← Mysql.lookup_map _ keeps, refined, updatedView]

end Refinement

/-- `Revert` brings every column the old table shares by name with the migrated table
up to date. If at the cut-over the old table holds, key by key, the migrated table's
rows in the key and the shared columns, then after the replay of any valid run of the
migrated table's events it holds, key by key, the migrated table's final rows there,
with its key still unique. The migration key's columns must be among the shared ones. -/
theorem revertReplay_shared_columns_converge (migratedColumns oldColumns migratedVirtualColumns oldVirtualColumns
    keyColumns shared : List String)
    (sharing : (getSharedColumns migratedColumns oldColumns migratedVirtualColumns oldVirtualColumns [] []).1 = shared)
    (covered : keyColumns ⊆ shared) (defaults : NamedRow) {initial : List Int → Option NamedRow}
    (keyed : WellKeyed (revertMigration keyColumns shared) initial) {events : List (RowEvent NamedRow)}
    (valid : ValidRun (revertMigration keyColumns shared) initial events) {oldRows : List NamedRow}
    (unique : Mysql.Unique (keyOf keyColumns) oldRows)
    (agree : ∀ key, (Mysql.lookup (keyOf keyColumns) oldRows key).map (fun row => (keyOf keyColumns row, shared.map row)) =
      (initial key).map fun row => (keyOf keyColumns row, shared.map row)) :
    Mysql.Unique (keyOf keyColumns)
        (revertReplay migratedColumns oldColumns migratedVirtualColumns oldVirtualColumns keyColumns defaults oldRows
          events) ∧
      ∀ key, (Mysql.lookup (keyOf keyColumns)
          (revertReplay migratedColumns oldColumns migratedVirtualColumns oldVirtualColumns keyColumns defaults oldRows
            events) key).map (fun row => (keyOf keyColumns row, shared.map row)) =
        (stateAt (revertMigration keyColumns shared) initial events events.length key).map
          fun row => (keyOf keyColumns row, shared.map row) := by
  -- without renames the old table's names of the shared columns are their own
  have pair : getSharedColumns migratedColumns oldColumns migratedVirtualColumns oldVirtualColumns [] [] =
      (shared, shared) :=
    Prod.ext sharing ((getSharedColumns_snd_of_no_renames _ _ _ _ _).trans sharing)
  have replayed : revertReplay migratedColumns oldColumns migratedVirtualColumns oldVirtualColumns keyColumns defaults
      oldRows events = events.foldl (applyColumnsEvent keyColumns defaults shared shared) oldRows := by
    simp only [revertReplay, validateAlterStatement_newAlterTableParser, pair]
  rw [replayed]
  exact applyColumnsEvents_exact defaults covered keyed valid unique agree

/-- A row with key 1 and the given `a` and `c`. -/
def keyOneRow (a c : Int) : NamedRow := fun column =>
  if column = "id" then 1 else if column = "a" then a else if column = "c" then c else 0

/-- After the cut-over the migrated table's row 1 changes `a` from 10 to 20; the old
table, which still has the column `c` the migration dropped, gets `a = 20` back. -/
theorem revertReplay_restores_shared_column :
    Mysql.Unique (keyOf ["id"])
        (revertReplay ["id", "a"] ["id", "a", "c"] [] [] ["id"] (fun _ => 0) [keyOneRow 10 7]
          [.update (keyOneRow 10 0) (keyOneRow 20 0)]) ∧
      ∀ key, (Mysql.lookup (keyOf ["id"])
          (revertReplay ["id", "a"] ["id", "a", "c"] [] [] ["id"] (fun _ => 0) [keyOneRow 10 7]
            [.update (keyOneRow 10 0) (keyOneRow 20 0)]) key).map
            (fun row => (keyOf ["id"] row, ["id", "a"].map row)) =
        (stateAt (revertMigration ["id"] ["id", "a"]) (fun key => if key = [1] then some (keyOneRow 10 0) else none)
          [.update (keyOneRow 10 0) (keyOneRow 20 0)] 1 key).map
          fun row => (keyOf ["id"] row, ["id", "a"].map row) :=
  revertReplay_shared_columns_converge ["id", "a"] ["id", "a", "c"] [] [] ["id"] ["id", "a"] (by decide +kernel)
    (by decide)
    (fun _ => 0)
    (fun key row found => by
      by_cases one : key = [1]
      · subst one
        simp only [if_true, Option.some.injEq] at found
        subst found
        decide
      · simp [one] at found)
    (fun i bound => by
      cases i with
      | zero =>
        refine ⟨?_, Or.inl rfl⟩
        show (if keyOf ["id"] (keyOneRow 10 0) = [1] then some (keyOneRow 10 0) else none) = some (keyOneRow 10 0)
        exact if_pos (by decide)
      | succ i => simp at bound)
    (by unfold Mysql.Unique; decide)
    (fun key => by
      by_cases one : key = [1]
      · subst one
        decide
      · have other : keyOf ["id"] (keyOneRow 10 7) ≠ key := fun same => one (same ▸ by decide)
        simp [Mysql.lookup, one, other])

example : (revertReplay ["id", "a"] ["id", "a", "c"] [] [] ["id"] (fun _ => 0) [keyOneRow 10 7]
    [.update (keyOneRow 10 0) (keyOneRow 20 0)]).map (fun row => (row "a", row "c")) = [(20, 7)] := by
  decide +kernel
/-- The migration renamed `a` to `b`. After its cut-over the old table and the migrated
one both hold the row with key 1 and 0 in that column, and the migrated table's row is
then updated to `b = 5`. `Revert` shares only `id` between them, and the old table's row
keeps `a = 0`. -/
theorem revert_loses_renamed_column :
    getSharedColumns ["id", "b"] ["id", "a"] [] [] [] [] = (["id"], ["id"]) ∧
      (revertReplay ["id", "b"] ["id", "a"] [] [] ["id"] (fun _ => 0)
        [fun column => if column = "id" then 1 else 0]
        [.update (fun column => if column = "id" then 1 else 0)
          (fun column => if column = "id" then 1 else if column = "b" then 5 else 0)]).map
        (fun row => (row "id", row "a")) = [(1, 0)] := by
  decide +kernel

end GhOst.Logic
