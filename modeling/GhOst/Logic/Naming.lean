import GhOst.Logic.Applier
import GhOst.Lib.Lists

/-! Which objects the generated statements name. A name reaches a statement in
three ways: through `EscapeName` as a backtick-quoted identifier, inside the
`/* gh-ost db.tbl */` comment, and raw inside the `LIKE` literal of
`showTableStatus`. For names that hold no backtick, are not Go string literals
and hold no `*/`, the identifier and the comment read back exactly; the `LIKE`
pattern, even then, matches every name that agrees with it off its `_`. -/

namespace GhOst.Logic

open GhOst.Sql GhOst.Mysql

/-- A name that `EscapeName` leaves as it is and that reads back from the
identifier and the comment it is written into. -/
structure PlainName (name : String) : Prop where
  noBacktick : '`' ∉ name.toList
  notLiteral : Go.Strconv.Unquote name = none
  noCommentEnd : ¬ ['*', '/'] <:+: name.toList

theorem escapeName_of_unquote_none {name : String} (notLiteral : Go.Strconv.Unquote name = none) :
    (escapeName name).toList = '`' :: (name.toList ++ ['`']) := by
  simp [escapeName, notLiteral, String.toList_append]

/-- A plain name is lexed back from its escaped form as one identifier token. -/
theorem lexQuotedIdentifier_escapeName {name : String} (plain : PlainName name) {rest : List Char}
    (next : rest.head? ≠ some '`') :
    lexQuotedIdentifier ((escapeName name).toList ++ rest) = some (name.toList, rest) := by
  rw [escapeName_of_unquote_none plain.notLiteral]
  simp only [List.cons_append, List.append_assoc, lexQuotedIdentifier]
  exact quotedIdentifier_of_not_mem plain.noBacktick next

theorem escapeName_no_commentEnd {name : String} (plain : PlainName name) :
    ¬ ['*', '/'] <:+: (escapeName name).toList := by
  rw [escapeName_of_unquote_none plain.notLiteral]
  show ¬ ['*', '/'] <:+: ['`'] ++ (name.toList ++ ['`'])
  apply Lib.not_pair_infix_append (by decide) ?_ (Or.inl (by decide))
  exact Lib.not_pair_infix_append plain.noCommentEnd (by decide) (Or.inr (by decide))

/-- The `gh-ost db.tbl` comment of a statement, for plain names, closes right
after the table name. -/
theorem blockComment_header {databaseName tableName : String} (plainDatabase : PlainName databaseName)
    (plainTable : PlainName tableName) (rest : List Char) :
    blockComment ((" gh-ost " ++ escapeName databaseName ++ "." ++ escapeName tableName ++ " */").toList ++
        rest) =
      some ((" gh-ost " ++ escapeName databaseName ++ "." ++ escapeName tableName ++ " ").toList, rest) := by
  have database := escapeName_no_commentEnd plainDatabase
  have table := escapeName_no_commentEnd plainTable
  have ticked : ∀ name, Go.Strconv.Unquote name = none → (escapeName name).toList.head? = some '`' := by
    intro name notLiteral
    simp [escapeName_of_unquote_none notLiteral]
  have databaseHead := ticked databaseName plainDatabase.notLiteral
  have tableHead := ticked tableName plainTable.notLiteral
  -- no `*/` in any piece, and the piece after every joint starts with no `/`
  have body : ¬ ['*', '/'] <:+:
      (" gh-ost " ++ escapeName databaseName ++ "." ++ escapeName tableName ++ " ").toList := by
    simp only [String.toList_append]
    refine Lib.not_pair_infix_append ?_ (by decide) (Or.inr (by decide))
    refine Lib.not_pair_infix_append ?_ table (Or.inr (by simp [tableHead]))
    refine Lib.not_pair_infix_append ?_ (by decide) (Or.inr (by decide))
    exact Lib.not_pair_infix_append (by decide) database (Or.inr (by simp [databaseHead]))
  have split : (" gh-ost " ++ escapeName databaseName ++ "." ++ escapeName tableName ++ " */").toList ++
      rest = (" gh-ost " ++ escapeName databaseName ++ "." ++ escapeName tableName ++ " ").toList ++
        '*' :: '/' :: rest := by
    simp [String.toList_append]
  rw [split, blockComment_of_not_infix body]

/-- For a table name with no quote, backslash or `%`, `tableExists` finds every
table whose name agrees with it outside the positions of its `_`. -/
theorem tableExists_iff (tables : List String) {tableName : String} (unquoted : '\'' ∉ tableName.toList)
    (unescaped : '\\' ∉ tableName.toList) (noRun : '%' ∉ tableName.toList) :
    tableExists tables tableName = true ↔
      ∃ table ∈ tables, List.Forall₂ (fun p c => p = '_' ∨ c = p) tableName.toList table.toList := by
  have literal : stringLiteral (tableName.toList ++ ['\'']) = some (tableName.toList, []) :=
    stringLiteral_of_plain unquoted unescaped (by simp)
  have spelled : (tableName ++ "'").toList = tableName.toList ++ ['\''] := by
    simp [String.toList_append]
  unfold tableExists
  rw [spelled, literal]
  simp [likeMatches_iff noRun unescaped]

end GhOst.Logic
