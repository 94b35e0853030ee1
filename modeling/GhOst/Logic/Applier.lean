import GhOst.Sql.Builder
import GhOst.Mysql.Lexical

/-! The applier's statements about whole tables (`applier.go`), with the answer
the server gives them: `SHOW TABLE STATUS ... LIKE` reports every table whose
name matches the pattern its string literal denotes. -/

namespace GhOst.Logic

open GhOst.Sql

/-- `showTableStatus`: the statement the applier sends for a table name. -/
def showTableStatusQuery (databaseName tableName : String) : String :=
  "show /* gh-ost */ table status from " ++ escapeName databaseName ++ " like '" ++ tableName ++ "'"

/-- `tableExists` against a database holding `tables`: some table answers the
statement. A literal that does not close where the statement ends makes the
query fail; `showTableStatus` ignores the error and reports no table. -/
def tableExists (tables : List String) (tableName : String) : Bool :=
  match Mysql.stringLiteral (tableName ++ "'").toList with
  | some (pattern, []) => tables.any fun table => Mysql.likeMatches pattern table.toList
  | _ => false

end GhOst.Logic
