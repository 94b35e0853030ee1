import GhOst.Mysql.Table
import GhOst.Sql.Types

/-! Replaying the original table's row events onto the ghost table, interleaved with
row copy. `buildDMLEventQuery` turns each binlog row event into ghost statements, as
the DML builders write them: a delete is `DELETE ... WHERE` the migration key, an
insert is `REPLACE` of the shared columns, an update that keeps the migration key is
`UPDATE ... SET` the shared columns `WHERE` the old key, and one that changes the key
is that delete followed by that insert. A copied chunk is `INSERT IGNORE ... SELECT`
of the rows whose key lies in its range, read from some state of the original table. -/

namespace GhOst.Logic

/-- How the rows of the original table meet the ghost table: a row's migration
unique key (the columns `U`), the ghost row its shared columns make, and the
migration key read back from a ghost row, which the shared columns carry. -/
structure Migration (ρ κ σ : Type) where
  uniqueKey : ρ → κ
  sharedRow : ρ → σ
  ghostUniqueKey : σ → κ
  ghostUniqueKey_sharedRow : ∀ row, ghostUniqueKey (sharedRow row) = uniqueKey row

/-- A binlog row event on the original table, with its row images. -/
inductive RowEvent (ρ : Type) where
  | insert (newValues : ρ)
  | delete (whereValues : ρ)
  | update (whereValues newValues : ρ)
  deriving DecidableEq, Repr

/-- A statement on the ghost table, by what it does with its arguments. -/
inductive GhostStatement (κ σ : Type) where
  /-- `delete ... where` the unique key equals the arguments -/
  | delete (uniqueKeyArgs : κ)
  /-- `replace into ... values` the shared columns -/
  | replace (sharedArgs : σ)
  /-- `update ... set` the shared columns `where` the unique key equals the arguments -/
  | update (sharedArgs : σ) (uniqueKeyArgs : κ)
  deriving DecidableEq, Repr

section UniqueKeyColumns

variable {α : Type} [DecidableEq α]

/-- The values of the unique key's columns in a row image, each read at the column's
ordinal among the original table's columns. -/
def uniqueKeyValues (uniqueKeyColumns originalTableColumns : Sql.ColumnList) (values : List α) :
    List (Option α) :=
  uniqueKeyColumns.names.map fun name => values[originalTableColumns.ordinal name]?

/-- `updateModifiesUniqueKeyColumns`: the first unique-key column whose value differs
between an update's before and after images. -/
def updateModifiesUniqueKeyColumns (uniqueKeyColumns originalTableColumns : Sql.ColumnList)
    (whereValues newValues : List α) : Option String :=
  uniqueKeyColumns.names.find? fun name =>
    whereValues[originalTableColumns.ordinal name]? != newValues[originalTableColumns.ordinal name]?

/-- An update modifies the unique key exactly when the key's values differ, which is
the test `buildDMLEventQuery` makes on the migration key. -/
theorem updateModifiesUniqueKeyColumns_isSome_iff (uniqueKeyColumns originalTableColumns : Sql.ColumnList)
    (whereValues newValues : List α) :
    (updateModifiesUniqueKeyColumns uniqueKeyColumns originalTableColumns whereValues newValues).isSome ↔
      uniqueKeyValues uniqueKeyColumns originalTableColumns whereValues ≠
        uniqueKeyValues uniqueKeyColumns originalTableColumns newValues := by
  simp [updateModifiesUniqueKeyColumns, uniqueKeyValues, List.find?_isSome, List.map_inj_left]

end UniqueKeyColumns

section Replay

variable {ρ κ σ γ : Type} [DecidableEq κ] [DecidableEq γ] (m : Migration ρ κ σ)

/-- `buildDMLEventQuery`: an update whose unique key changes (as
`updateModifiesUniqueKeyColumns` finds, see `updateModifiesUniqueKeyColumns_isSome_iff`)
is replayed as a delete and an insert. -/
def buildDMLEventQuery : RowEvent ρ → List (GhostStatement κ σ)
  | .delete whereValues => [.delete (m.uniqueKey whereValues)]
  | .insert newValues => [.replace (m.sharedRow newValues)]
  | .update whereValues newValues =>
    if m.uniqueKey whereValues ≠ m.uniqueKey newValues then
      [.delete (m.uniqueKey whereValues), .replace (m.sharedRow newValues)]
    else [.update (m.sharedRow newValues) (m.uniqueKey whereValues)]

variable (index : σ → γ)

/-- A ghost statement run on the ghost table, whose unique index reads `index`. -/
def applyStatement : GhostStatement κ σ → List σ → Except Mysql.TableError (List σ)
  | .delete uniqueKeyArgs, rows => .ok (Mysql.deleteWhere (fun row => m.ghostUniqueKey row = uniqueKeyArgs) rows)
  | .replace sharedArgs, rows => .ok (Mysql.replace index sharedArgs rows)
  | .update sharedArgs uniqueKeyArgs, rows =>
    Mysql.updateWhere index (fun row => m.ghostUniqueKey row = uniqueKeyArgs) sharedArgs rows

/-- The statements of one event, in order; the first failure fails the event. -/
def applyDMLEvent (event : RowEvent ρ) (rows : List σ) : Except Mysql.TableError (List σ) :=
  (buildDMLEventQuery m event).foldlM (fun rows statement => applyStatement m index statement rows) rows

/-- `insert ignore ... select`: the rows of a state of the original table whose keys
lie in the chunk's range. -/
def copyRows (original : κ → Option ρ) (range : List κ) (rows : List σ) : List σ :=
  range.foldl (fun rows key =>
    match original key with
    | some row => Mysql.insertIgnore index (m.sharedRow row) rows
    | none => rows) rows

/-! ## The original table -/

/-- The original table after a row event. -/
def RowEvent.apply (original : κ → Option ρ) : RowEvent ρ → κ → Option ρ
  | .insert newValues => Function.update original (m.uniqueKey newValues) (some newValues)
  | .delete whereValues => Function.update original (m.uniqueKey whereValues) none
  | .update whereValues newValues =>
    Function.update (Function.update original (m.uniqueKey whereValues) none) (m.uniqueKey newValues)
      (some newValues)

/-- A row event the original table can have logged: an insert of a free key, a
delete of the row there, an update of the row there to a free key or to its own. -/
def RowEvent.Valid (original : κ → Option ρ) : RowEvent ρ → Prop
  | .insert newValues => original (m.uniqueKey newValues) = none
  | .delete whereValues => original (m.uniqueKey whereValues) = some whereValues
  | .update whereValues newValues =>
    original (m.uniqueKey whereValues) = some whereValues ∧
      (m.uniqueKey newValues = m.uniqueKey whereValues ∨ original (m.uniqueKey newValues) = none)

/-- Every row is stored under its own key. -/
def WellKeyed (original : κ → Option ρ) : Prop :=
  ∀ key row, original key = some row → m.uniqueKey row = key

/-- The original table after the first `count` events. -/
def stateAt (initial : κ → Option ρ) (events : List (RowEvent ρ)) (count : Nat) : κ → Option ρ :=
  (events.take count).foldl (fun original event => RowEvent.apply m original event) initial

/-- Every event is valid in the state it follows. -/
def ValidRun (initial : κ → Option ρ) (events : List (RowEvent ρ)) : Prop :=
  ∀ i (bound : i < events.length), RowEvent.Valid m (stateAt m initial events i) (events.get ⟨i, bound⟩)

/-! ## Interleaving -/

/-- A step of the migration: apply the next binlog event, or copy a chunk read from
the original table after the first `state` events. -/
inductive Step (κ : Type) where
  | applyEvent
  | copyChunk (state : Nat) (range : List κ)
  deriving DecidableEq, Repr

/-- The steps run from `applied` events applied and the ghost table `rows`; the
result is the count of applied events and the ghost table. -/
def runSteps (initial : κ → Option ρ) (events : List (RowEvent ρ)) :
    List (Step κ) → Nat → List σ → Except Mysql.TableError (Nat × List σ)
  | [], applied, rows => .ok (applied, rows)
  | .applyEvent :: steps, applied, rows =>
    match events[applied]? with
    | some event => do
      let rows ← applyDMLEvent m index event rows
      runSteps initial events steps (applied + 1) rows
    | none => runSteps initial events steps applied rows
  | .copyChunk state range :: steps, applied, rows =>
    runSteps initial events steps applied (copyRows m index (stateAt m initial events state) range rows)

/-- A schedule that applies the `total` events once each and copies every chunk from
a state no older than the events applied before it. -/
def Admissible (total : Nat) : List (Step κ) → Nat → Prop
  | [], applied => applied = total
  | .applyEvent :: steps, applied => applied < total ∧ Admissible total steps (applied + 1)
  | .copyChunk state _ :: steps, applied => applied ≤ state ∧ state ≤ total ∧ Admissible total steps applied

/-- The keys of every chunk the schedule copies. -/
def copiedKeys : List (Step κ) → List κ
  | [] => []
  | .applyEvent :: steps => copiedKeys steps
  | .copyChunk _ range :: steps => range ++ copiedKeys steps

end Replay

end GhOst.Logic
