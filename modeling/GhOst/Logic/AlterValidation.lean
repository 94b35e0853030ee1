import GhOst.Sql.AlterClauses
import GhOst.Logic.Revert
import Mathlib.Data.List.Sort

/-! `validateAlterStatement`, the check `Migrate` runs on the parsed ALTER before it
touches a table: an ALTER that renames the table is refused, and one that renames
columns needs `--approve-renamed-columns` (or `--skip-renamed-columns`). What passes
becomes the `ColumnRenameMap` and the `DroppedColumnsMap` through which
`getSharedColumns` decides which columns the migration copies.

On an ALTER of readable clauses the check asks for approval exactly for the renames the
`CHANGE` clauses make (`validateAlterStatement_clauses`). A column renamed by MySQL 8's
`RENAME COLUMN` is not one of them: the check passes without asking, and the column is
left out of the copied columns (`rename_column_unseen`). -/

namespace GhOst.Sql

open Lib Regex Go.Strings

namespace AlterTableParser

/-- `GetNonTrivialRenames`: the renames to another name. -/
def getNonTrivialRenames (this : AlterTableParser) : List (String × String) :=
  this.columnRenameMap.filter fun (column, renamed) => column != renamed

/-- `HasNonTrivialRenames`. -/
def hasNonTrivialRenames (this : AlterTableParser) : Bool :=
  this.getNonTrivialRenames.length > 0

theorem hasNonTrivialRenames_iff (this : AlterTableParser) :
    this.hasNonTrivialRenames = true ↔ this.getNonTrivialRenames ≠ [] := by
  simp [hasNonTrivialRenames, List.length_pos_iff]

/-- `parseAlterToken` sets `isRenameTable` when `renameTableRegexp` matches, and keeps it
otherwise. -/
theorem parseAlterToken_isRenameTable (this : AlterTableParser) (alterToken : String) :
    (this.parseAlterToken alterToken).isRenameTable =
      (this.isRenameTable || renameTableRegexp.matchString alterToken.toList) := by
  unfold parseAlterToken
  by_cases renames : renameTableRegexp.matchString alterToken.toList = true
  · split_ifs <;> simp [renames]
  · -- the loops over the renames and the drops leave the flag
    dsimp only
    rw [if_neg renames, Bool.eq_false_iff.mpr renames, Bool.or_false]
    split_ifs <;>
      exact (foldl_keeps isRenameTable (by intros; rfl) _ _).trans (foldl_keeps isRenameTable (by intros; rfl) _ _)

/-- The token loop sets `isRenameTable` when some sanitized token matches
`renameTableRegexp`. -/
theorem parseAlterTokens_isRenameTable (this : AlterTableParser) :
    this.parseAlterTokens.isRenameTable = (this.isRenameTable ||
      (tokenizeAlterStatement this.alterStatementOptions).any fun alterToken =>
        renameTableRegexp.matchString (sanitizeQuotesFromAlterStatement alterToken).toList) := by
  unfold parseAlterTokens
  generalize tokenizeAlterStatement this.alterStatementOptions = tokens
  induction tokens generalizing this with
  | nil => simp
  | cons alterToken later ih =>
    rw [List.foldl_cons, ih]
    simp [parseAlterToken_isRenameTable, Bool.or_assoc]

end AlterTableParser

open AlterTableParser

/-- `renameTableRegexp` matches nothing in a text without `rename`. -/
theorem matchString_renameTableRegexp_of_absent {text : String} (absent : caselessIn "rename" text = false) :
    renameTableRegexp.matchString text.toList = false := by
  unfold Regex.matchString Regex.findSubmatch renameTableRegexp caseless wordBoundary
  rw [searchFrom_assert_literal_of_absent _ _ _ _ (not_infix_of_caselessIn absent)]
  rfl

/-- On readable clauses joined by `", "`, `isRenameTable` is whether a clause matches
`renameTableRegexp`. -/
theorem newParserFromAlterStatement_isRenameTable {clauses : List AlterClause}
    (read : ∀ clause ∈ clauses, clause.readable = true) :
    (newParserFromAlterStatement (", ".intercalate (clauses.map AlterClause.text))).isRenameTable =
      clauses.any fun clause => renameTableRegexp.matchString clause.text.toList := by
  obtain ⟨parsed, tokens⟩ := newParserFromAlterStatement_joined read
  rw [parsed, parseAlterTokens_isRenameTable]
  simp only [tokens, List.any_map, Function.comp_def, newAlterTableParser, Bool.false_or]
  -- the sanitizer leaves every clause as it is
  have sanitized {clause : AlterClause} (member : clause ∈ clauses) :
      sanitizeQuotesFromAlterStatement clause.text = clause.text :=
    sanitizeQuotesFromAlterStatement_of_unquoted (AlterClause.unquoted_text (read clause member))
  apply Bool.eq_iff_iff.mpr
  simp only [List.any_eq_true]
  constructor
  · rintro ⟨clause, member, found⟩
    exact ⟨clause, member, by rwa [sanitized member] at found⟩
  · rintro ⟨clause, member, found⟩
    exact ⟨clause, member, by rwa [sanitized member]⟩

/-! ### `RENAME COLUMN` -/

/-- MySQL 8's `RENAME COLUMN column TO newName`, a clause of an ALTER. -/
def renameColumnClause (column newName : String) : String :=
  "RENAME COLUMN " ++ column ++ " TO " ++ newName

theorem not_cons_prefix_cons {α : Type} {a b : α} {as bs : List α} (differ : a ≠ b) : ¬ (a :: as) <+: (b :: bs) :=
  fun found => differ (List.cons_prefix_cons.mp found).1

/-- `renameTableRegexp` does not match a `RENAME COLUMN` clause: `rename\s+` is followed by
`COLUMN`, not by `to` or `as`, and `rename` occurs nowhere else. -/
theorem matchString_renameTableRegexp_renameColumn {column newName : String}
    (columnAbsent : caselessIn "rename" column = false) (newAbsent : caselessIn "rename" newName = false) :
    renameTableRegexp.matchString (renameColumnClause column newName).toList = false := by
  have spelled : (renameColumnClause column newName).toList = 'R' :: ("ENAME".toList ++ ' ' ::
      ("COLUMN".toList ++ ' ' :: (column.toList ++ ' ' :: ("TO".toList ++ ' ' :: newName.toList)))) := by
    simp [renameColumnClause]
  have folds : "RENAME".toList.map foldCase = "rename".toList := by decide
  have columnWord : ∀ word : String, word.toList = 't' :: "o".toList ∨ word.toList = 'a' :: "s".toList →
      ∀ rest, ¬ word.toList <+: ("COLUMN".toList ++ ' ' :: rest).map foldCase := by
    rintro word (spelledWord | spelledWord) rest <;>
      rw [spelledWord, show "COLUMN".toList = 'C' :: "OLUMN".toList from rfl, List.cons_append, List.map_cons] <;>
      exact not_cons_prefix_cons (by decide)
  have here : (group 0 renameTableRegexp).matchAt ⟨[], (renameColumnClause column newName).toList, fun _ => none⟩
      some = none := by
    rw [matchAt_group]
    unfold renameTableRegexp
    rw [show (renameColumnClause column newName).toList = "RENAME".toList ++ ' ' :: ("COLUMN".toList ++ ' ' ::
      (column.toList ++ ' ' :: ("TO".toList ++ ' ' :: newName.toList))) by simp [renameColumnClause],
      matchAt_keyword _ folds rfl rfl _ _ (start_of_columnWord _), matchAt_concat_cons, matchAt_group, matchAt_alt,
      caseless, caseless, matchAt_literal_of_not_prefix foldCase _ _ _ _ (columnWord "to" (.inl rfl) _),
      matchAt_literal_of_not_prefix foldCase _ _ _ _ (columnWord "as" (.inr rfl) _)]
    rfl
  -- after the first rune, `rename` could only stand inside one of the words between spaces
  have later : ¬ "rename".toList <:+: ("ENAME".toList ++ ' ' :: ("COLUMN".toList ++ ' ' ::
      (column.toList ++ ' ' :: ("TO".toList ++ ' ' :: newName.toList)))).map foldCase := by
    have apart : foldCase ' ' ∉ "rename".toList := by decide
    simp only [List.map_append, List.map_cons]
    rw [infix_append_cons_iff apart, infix_append_cons_iff apart, infix_append_cons_iff apart,
      infix_append_cons_iff apart]
    simp only [not_or]
    exact ⟨by decide, by decide, not_infix_of_caselessIn columnAbsent, by decide, not_infix_of_caselessIn newAbsent⟩
  unfold Regex.matchString Regex.findSubmatch
  rw [spelled, searchFrom_cons_of_none (spelled ▸ here)]
  unfold renameTableRegexp caseless wordBoundary
  rw [searchFrom_assert_literal_of_absent _ _ _ _ later]
  rfl

end GhOst.Sql

namespace GhOst.Logic

open Sql

/-- The fields of `MigrationContext` that `validateAlterStatement` reads and sets. -/
structure AlterValidationContext where
  approveRenamedColumns : Bool := false
  skipRenamedColumns : Bool := false
  columnRenameMap : List (String × String) := []
  droppedColumnsMap : List String := []
  deriving DecidableEq, Repr

/-- `ErrMigratorUnsupportedRenameAlter`. -/
def errMigratorUnsupportedRenameAlter : String :=
  "ALTER statement seems to RENAME the table. This is not supported, and you should run your RENAME outside gh-ost."

/-- `%v` of a `map[string]string`: `map[key:value ...]`, the keys in sorted order. -/
def formatStringMap (map : List (String × String)) : String :=
  "map[" ++ " ".intercalate ((map.insertionSort fun a b => a.1 ≤ b.1).map fun entry => entry.1 ++ ":" ++ entry.2) ++
    "]"

/-- The error `validateAlterStatement` returns for renames that are not approved. -/
def renamedColumnsError (renames : List (String × String)) : String :=
  "gh-ost believes the ALTER statement renames columns, as follows: " ++ formatStringMap renames ++
    "; as precaution, you are asked to confirm gh-ost is correct, and provide with `--approve-renamed-columns`, " ++
    "and we\x27re all happy. Or you can skip renamed columns via `--skip-renamed-columns`, in which case column " ++
    "data may be lost"

namespace Migrator

/-- `validateAlterStatement`: the context after it, and the error it returns. -/
def validateAlterStatement (parser : Sql.AlterTableParser) (context : AlterValidationContext) :
    AlterValidationContext × Option String :=
  if parser.isRenameTable then (context, some errMigratorUnsupportedRenameAlter)
  else if parser.hasNonTrivialRenames && !context.skipRenamedColumns then
    -- the renames are set in the context before their approval is checked
    let context := { context with columnRenameMap := parser.getNonTrivialRenames }
    if !context.approveRenamedColumns then (context, some (renamedColumnsError parser.getNonTrivialRenames))
    else ({ context with droppedColumnsMap := parser.droppedColumns }, none)
  else ({ context with droppedColumnsMap := parser.droppedColumns }, none)

/-- The check on a parser that does not rename the table: whether it renames a column to
another name decides, with the two flags, whether the check asks for approval. -/
theorem validateAlterStatement_of_not_renameTable {parser : Sql.AlterTableParser} (table : parser.isRenameTable = false)
    (context : AlterValidationContext) :
    validateAlterStatement parser context =
      if parser.getNonTrivialRenames ≠ [] ∧ context.skipRenamedColumns = false then
        if context.approveRenamedColumns then
          ({ context with columnRenameMap := parser.getNonTrivialRenames, droppedColumnsMap := parser.droppedColumns },
            none)
        else
          ({ context with columnRenameMap := parser.getNonTrivialRenames },
            some (renamedColumnsError parser.getNonTrivialRenames))
      else ({ context with droppedColumnsMap := parser.droppedColumns }, none) := by
  unfold validateAlterStatement
  simp only [table, Bool.false_eq_true, if_false]
  by_cases empty : parser.getNonTrivialRenames = []
  · have none : parser.hasNonTrivialRenames = false := by
      simp [Sql.AlterTableParser.hasNonTrivialRenames, empty]
    simp [none, empty]
  · have has := (Sql.AlterTableParser.hasNonTrivialRenames_iff parser).mpr empty
    cases context.skipRenamedColumns <;> cases context.approveRenamedColumns <;> simp [has, empty]

end Migrator

/-- Where the check passes from a context without renames and without
`--skip-renamed-columns`, it leaves the maps that `Revert`'s model of it gives of the
parser's two maps. -/
theorem validateAlterStatement_refines {parser : Sql.AlterTableParser} {context : AlterValidationContext}
    (fresh : context.columnRenameMap = []) (noSkip : context.skipRenamedColumns = false)
    (passes : (Migrator.validateAlterStatement parser context).2 = none) :
    ((Migrator.validateAlterStatement parser context).1.columnRenameMap,
        (Migrator.validateAlterStatement parser context).1.droppedColumnsMap) =
      validateAlterStatement ⟨parser.columnRenameMap, parser.droppedColumns⟩ := by
  -- the refused table rename returns an error
  cases table : parser.isRenameTable
  case true => simp [Migrator.validateAlterStatement, table] at passes
  case false =>
    have same : (⟨parser.columnRenameMap, parser.droppedColumns⟩ : AlterTableParser).getNonTrivialRenames =
        parser.getNonTrivialRenames := rfl
    rw [Migrator.validateAlterStatement_of_not_renameTable table] at passes ⊢
    unfold validateAlterStatement
    rw [same]
    by_cases empty : parser.getNonTrivialRenames = []
    · simp [empty, fresh]
    -- so do renames that are not approved
    · cases approve : context.approveRenamedColumns
      case false => simp [empty, approve, noSkip] at passes
      case true => simp [empty, noSkip, List.isEmpty_iff]

/-- The renames of the clauses to a name other than the column's own. -/
def clauseNonTrivialRenames (clauses : List AlterClause) : List (String × String) :=
  (clauseRenames clauses).filter fun (column, renamed) => column != renamed

/-- The two maps of the parser of readable clauses joined by `", "`. -/
theorem newParserFromAlterStatement_renames_drops {clauses : List AlterClause}
    (read : ∀ clause ∈ clauses, clause.readable = true) :
    (newParserFromAlterStatement (", ".intercalate (clauses.map AlterClause.text))).columnRenameMap =
        clauseRenames clauses ∧
      (newParserFromAlterStatement (", ".intercalate (clauses.map AlterClause.text))).droppedColumns =
        clauseDrops clauses := by
  obtain ⟨parsed, tokens⟩ := newParserFromAlterStatement_joined read
  rw [parsed]
  refine ⟨(AlterTableParser.parseAlterTokens_clauses read _ ?_).1, (AlterTableParser.parseAlterTokens_clauses read _ ?_).2.1⟩ <;>
    exact tokens

/-- A column renamed by `RENAME COLUMN column TO newName` is not seen as renamed: the check
passes without asking for approval, whatever the flags, and leaves no rename; so
`getSharedColumns` leaves the column out of the copied columns whenever the ghost table has
no column of its old name, and its data is not copied to the new one. -/
theorem rename_column_unseen {column newName : String}
    (read : (AlterClause.other (renameColumnClause column newName)).readable = true)
    (columnAbsent : caselessIn "rename" column = false) (newAbsent : caselessIn "rename" newName = false)
    (context : AlterValidationContext) (fresh : context.columnRenameMap = [])
    (originalColumns ghostColumns originalVirtualColumns ghostVirtualColumns : List String)
    (renamedAway : ∀ ghostColumn ∈ ghostColumns, equalFold column ghostColumn = false ∧ equalFold "" ghostColumn = false) :
    Migrator.validateAlterStatement (newParserFromAlterStatement (renameColumnClause column newName)) context =
        ({ context with droppedColumnsMap := [] }, none) ∧
      column ∉ (getSharedColumns originalColumns ghostColumns originalVirtualColumns ghostVirtualColumns
        context.columnRenameMap []).1 := by
  have clauseRead : ∀ clause ∈ [AlterClause.other (renameColumnClause column newName)], clause.readable = true := by
    simpa using read
  have joined : renameColumnClause column newName =
      ", ".intercalate ([AlterClause.other (renameColumnClause column newName)].map AlterClause.text) := rfl
  -- the parser finds no rename, no drop and no table rename in the clause
  have renames : (newParserFromAlterStatement (renameColumnClause column newName)).columnRenameMap = [] :=
    (newParserFromAlterStatement_renames_drops clauseRead).1
  have drops : (newParserFromAlterStatement (renameColumnClause column newName)).droppedColumns = [] :=
    (newParserFromAlterStatement_renames_drops clauseRead).2
  have table : (newParserFromAlterStatement (renameColumnClause column newName)).isRenameTable = false := by
    rw [joined, newParserFromAlterStatement_isRenameTable clauseRead]
    simp only [List.any_cons, List.any_nil, Bool.or_false, AlterClause.text_other]
    exact matchString_renameTableRegexp_renameColumn columnAbsent newAbsent
  refine ⟨?passes, ?unshared⟩
  case passes =>
    generalize newParserFromAlterStatement (renameColumnClause column newName) = parser at renames drops table
    have none : parser.getNonTrivialRenames = [] := by
      simp [Sql.AlterTableParser.getNonTrivialRenames, renames]
    rw [Migrator.validateAlterStatement_of_not_renameTable table, drops]
    simp [none]
  case unshared =>
    simp only [getSharedColumns, fresh, mapLookup, List.lookup_nil, Option.getD_none, List.mem_filter,
      Bool.and_eq_true, List.any_eq_true, Bool.or_eq_true, not_and]
    -- the column is shared only through a ghost column that folds to it or to the empty map entry
    rintro - ⟨⟨⟨ghostColumn, member, folds⟩, -⟩, -⟩
    obtain ⟨columnDiffers, emptyDiffers⟩ := renamedAway ghostColumn member
    rcases folds with same | same
    · simp [columnDiffers] at same
    · simp [emptyDiffers] at same

/-- `RENAME COLUMN a TO b` on a table of `id` and `a`, migrated to one of `id` and `b`. -/
theorem rename_column_a_to_b_unseen :
    (AlterClause.other (renameColumnClause "a" "b")).readable = true ∧ caselessIn "rename" "a" = false ∧
      caselessIn "rename" "b" = false ∧
      (∀ ghostColumn ∈ ["id", "b"], equalFold "a" ghostColumn = false ∧ equalFold "" ghostColumn = false) ∧
      Migrator.validateAlterStatement (newParserFromAlterStatement (renameColumnClause "a" "b")) {} = ({}, none) ∧
      "a" ∉ (getSharedColumns ["id", "a"] ["id", "b"] [] [] [] []).1 :=
  ⟨by decide, by decide, by decide, by decide +kernel,
    rename_column_unseen (by decide) (by decide) (by decide) {} rfl ["id", "a"] ["id", "b"] [] [] (by decide +kernel)⟩

end GhOst.Logic
