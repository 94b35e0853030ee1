import GhOst.Logic.Convergence

/-! The row-count estimate of `ApplyDMLEventQueries` (`applier.go`). Each statement
that `buildDMLEventQuery` builds carries a `rowsDelta`: `+1` for the `REPLACE` of an
insert, `-1` for a delete, `0` for an update. A batch runs as one multi-statement
transaction and adds to `RowsDeltaEstimate` the sum, over its statements, of
`rowsDelta` times the rows MySQL reports the statement affected. MySQL counts for a
`REPLACE` the row it inserts and every row it deleted first, so a `REPLACE` that
meets a row with its key, such as one the row copy wrote, adds 2 to the estimate
where the table does not grow. -/

namespace GhOst.Logic

section RowsDelta

variable {ρ κ σ γ : Type} [DecidableEq κ] [DecidableEq σ] [DecidableEq γ] (m : Migration ρ κ σ)
  (index : σ → γ)

/-- The `rowsDelta` that `buildDMLEventQuery` gives each statement. -/
def GhostStatement.rowsDelta : GhostStatement κ σ → Int
  | .delete _ => -1
  | .replace _ => 1
  | .update _ _ => 0

/-- The rows MySQL reports a statement affected: those a `DELETE` removes; for a
`REPLACE`, the row it inserts and those it deletes first; those an `UPDATE` changes. -/
def affectedRows : GhostStatement κ σ → List σ → Nat
  | .delete uniqueKeyArgs, rows => (rows.filter fun row => m.ghostUniqueKey row = uniqueKeyArgs).length
  | .replace sharedArgs, rows => (rows.filter fun old => index old = index sharedArgs).length + 1
  | .update sharedArgs uniqueKeyArgs, rows =>
    (rows.filter fun old => m.ghostUniqueKey old = uniqueKeyArgs ∧ old ≠ sharedArgs).length

/-- One statement of a batch: the table after it, and `totalDelta` with the statement's
share added. -/
def applyCounting (state : List σ × Int) (statement : GhostStatement κ σ) :
    Except Mysql.TableError (List σ × Int) :=
  (applyStatement m index statement state.1).map fun next =>
    (next, state.2 + statement.rowsDelta * affectedRows m index statement state.1)

/-- `ApplyDMLEventQueries`: the statements of the batch's events run one after another
in one transaction, and `totalDelta` sums each statement's `rowsDelta` times the rows
it affected. A failing statement rolls the transaction back: the error. -/
def applyDMLEventQueries (dmlEvents : List (RowEvent ρ)) (rows : List σ) :
    Except Mysql.TableError (List σ × Int) :=
  (dmlEvents.flatMap (buildDMLEventQuery m)).foldlM (applyCounting m index) (rows, 0)

/-- The rows a statement's `REPLACE` deletes before it inserts. -/
def replacedRows : GhostStatement κ σ → List σ → Nat
  | .replace sharedArgs, rows => (rows.filter fun old => index old = index sharedArgs).length
  | _, _ => 0

/-- The rows the `REPLACE`s of a list of statements delete, as the statements run. -/
def batchReplacedRows : List (GhostStatement κ σ) → List σ → Nat
  | [], _ => 0
  | statement :: rest, rows =>
    match applyStatement m index statement rows with
    | .ok next => replacedRows index statement rows + batchReplacedRows rest next
    | .error _ => 0

theorem applyCounting_ok {state : List σ × Int} {statement : GhostStatement κ σ} {after : List σ × Int}
    (applied : applyCounting m index state statement = .ok after) :
    applyStatement m index statement state.1 = .ok after.1 ∧
      after.2 = state.2 + statement.rowsDelta * affectedRows m index statement state.1 := by
  unfold applyCounting at applied
  cases ran : applyStatement m index statement state.1 with
  | error e => simp [ran, Except.map] at applied
  | ok next =>
    simp only [ran, Except.map, Except.ok.injEq] at applied
    subst applied
    exact ⟨rfl, rfl⟩

/-- One statement: its `rowsDelta` times its affected rows is the change in the table's
size plus twice the rows a `REPLACE` deleted. -/
theorem rowsDelta_mul_affectedRows {statement : GhostStatement κ σ} {rows next : List σ}
    (applied : applyStatement m index statement rows = .ok next) :
    statement.rowsDelta * affectedRows m index statement rows =
      (next.length : Int) - rows.length + 2 * replacedRows index statement rows := by
  cases statement with
  | delete uniqueKeyArgs =>
    simp only [applyStatement, Except.ok.injEq] at applied
    subst applied
    have split := List.length_eq_length_filter_add (l := rows) fun row => decide (m.ghostUniqueKey row = uniqueKeyArgs)
    simp only [Mysql.deleteWhere, GhostStatement.rowsDelta, affectedRows, replacedRows]
    omega
  | replace sharedArgs =>
    simp only [applyStatement, Except.ok.injEq] at applied
    subst applied
    have split := List.length_eq_length_filter_add (l := rows) fun old => decide (index old = index sharedArgs)
    simp only [Mysql.replace, GhostStatement.rowsDelta, affectedRows, replacedRows, List.length_append,
      List.length_singleton]
    have kept : (rows.filter fun old => decide (index old ≠ index sharedArgs)).length =
        (rows.filter fun old => !decide (index old = index sharedArgs)).length := by
      simp
    omega
  | update sharedArgs uniqueKeyArgs =>
    simp only [applyStatement, Mysql.updateWhere] at applied
    split at applied
    · cases applied
      simp [GhostStatement.rowsDelta, replacedRows]
    · cases applied

/-- Over a run of statements, the sum grows by the change in the table's size plus
twice the rows the `REPLACE`s deleted. -/
theorem foldlM_applyCounting : ∀ (statements : List (GhostStatement κ σ)) (state after : List σ × Int),
    statements.foldlM (applyCounting m index) state = .ok after →
      after.2 = state.2 + ((after.1.length : Int) - state.1.length) +
        2 * batchReplacedRows m index statements state.1
  | [], state, after, ran => by
    cases ran
    simp [batchReplacedRows]
  | statement :: rest, state, after, ran => by
    rw [List.foldlM_cons] at ran
    cases stepped : applyCounting m index state statement with
    | error e => simp [stepped] at ran
    | ok next =>
      rw [stepped, Lib.ok_bind] at ran
      obtain ⟨applied, counted⟩ := applyCounting_ok m index stepped
      have share := rowsDelta_mul_affectedRows m index applied
      have later := foldlM_applyCounting rest next after ran
      simp only [batchReplacedRows, applied]
      push_cast
      omega

/-- A batch that commits adds to `RowsDeltaEstimate` the change in the ghost table's
size plus twice the rows its `REPLACE`s deleted, which is the change only when no
`REPLACE` met a row with its key. -/
theorem applyDMLEventQueries_totalDelta {dmlEvents : List (RowEvent ρ)} {rows final : List σ} {totalDelta : Int}
    (committed : applyDMLEventQueries m index dmlEvents rows = .ok (final, totalDelta)) :
    totalDelta = (final.length : Int) - rows.length +
      2 * batchReplacedRows m index (dmlEvents.flatMap (buildDMLEventQuery m)) rows := by
  have ran := foldlM_applyCounting m index _ (rows, 0) (final, totalDelta) committed
  simpa using ran

end RowsDelta

/-- The row copy has written `(5, 1)` to the ghost table before the insert of that row
is applied: the `REPLACE` reports two rows, and the estimate grows by 2 while the table
keeps its one row. -/
theorem replace_of_copied_row_counts_two :
    applyDMLEventQueries keyedPairs Prod.fst [.insert (5, 1)] [(5, 1)] = .ok ([(5, 1)], 2) ∧
      (2 : Int) = ([(5, 1)] : List (Nat × Nat)).length - ([(5, 1)] : List (Nat × Nat)).length +
        2 * batchReplacedRows keyedPairs Prod.fst ([RowEvent.insert (5, 1)].flatMap (buildDMLEventQuery keyedPairs))
          [(5, 1)] :=
  have committed : applyDMLEventQueries keyedPairs Prod.fst [.insert (5, 1)] [(5, 1)] = .ok ([(5, 1)], 2) := by
    decide
  ⟨committed, applyDMLEventQueries_totalDelta keyedPairs Prod.fst committed⟩

end GhOst.Logic
