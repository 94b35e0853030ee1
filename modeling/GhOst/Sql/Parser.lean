import GhOst.Go.Strings
import GhOst.Go.Strconv
import GhOst.Lib.Regex

/-! `AlterTableParser.tokenizeAlterStatement` (`parser.go`) splits the options of an ALTER
into clauses with `strings.FieldsFunc` and a predicate that keeps one terminating rune:
a `'` waits for the next `'`, and a `(` waits for the first `)`.

`alterClauses` is what the split is for: MySQL's clauses, separated by the commas outside
every parenthesis and every quoted literal, with nesting and backslash escapes read as
MySQL reads them. The tokenizer's state simulates that reading as long as no `(` or `'`
stands inside a parenthesis and no backslash escapes a quote (`ClauseScan.flat`); on such
text the two agree (`tokenizeAlterStatement_of_flat`).

`ParseEnumValues` reads the member list of an ENUM column type with `enumValuesRegexp`. -/

namespace GhOst.Sql

open Lib Go.Strings

/-- The predicate `tokenizeAlterStatement` passes to `FieldsFunc`, with the captured
`terminatingQuote` (rune 0 outside quotes) as its state: whether `c` separates, and the
state after it. -/
def tokenSeparator (terminatingQuote c : Char) : Bool × Char :=
  if c == terminatingQuote then (false, '\x00')
  else if terminatingQuote != '\x00' then (false, terminatingQuote)
  else if c == '\'' then (false, c)
  else if c == '(' then (false, ')')
  else (c == ',', terminatingQuote)

/-- `tokenizeAlterStatement`: the fields between separating commas, each trimmed. -/
def tokenizeAlterStatement (alterStatement : String) : List String :=
  (fieldsFunc tokenSeparator '\x00' alterStatement.toList).map fun token => String.ofList (trimSpace token)

/-! ### The clauses MySQL reads -/

/-- Where a rune of a clause list stands: how many parentheses are open, whether it is in
a quoted literal, and whether a backslash in the literal escapes it. -/
structure ClauseScan where
  depth : Nat
  quoted : Bool
  escaped : Bool
  deriving DecidableEq, Repr

namespace ClauseScan

def start : ClauseScan := ⟨0, false, false⟩

/-- One rune further. A doubled quote closes the literal and opens it again. -/
def step (scan : ClauseScan) (c : Char) : ClauseScan :=
  if scan.quoted then
    if scan.escaped then { scan with escaped := false }
    else if c = '\\' then { scan with escaped := true }
    else if c = '\'' then { scan with quoted := false }
    else scan
  else if c = '\'' then { scan with quoted := true }
  else if c = '(' then { scan with depth := scan.depth + 1 }
  else if c = ')' then { scan with depth := scan.depth - 1 }
  else scan

/-- A comma outside every parenthesis and literal separates two clauses. -/
def separates (scan : ClauseScan) (c : Char) : Bool :=
  c == ',' && scan.depth == 0 && !scan.quoted

/-- The scan as a `FieldsFunc` predicate. -/
def next (scan : ClauseScan) (c : Char) : Bool × ClauseScan :=
  (scan.separates c, scan.step c)

/-- The runes the tokenizer reads as MySQL does: outside parentheses no quote escaped by a
backslash; inside a parenthesis no nested `(`, and no `)` inside a literal. -/
def flat (scan : ClauseScan) (c : Char) : Bool :=
  if scan.depth == 0 then !(scan.quoted && scan.escaped && c == '\'')
  else if scan.quoted then c != ')'
  else c != '('

end ClauseScan

/-- The clauses of an ALTER's options: the text split at the commas outside every
parenthesis and literal, empty pieces dropped, each piece trimmed. -/
def alterClauses (alterStatement : String) : List String :=
  (fieldsFunc ClauseScan.next ClauseScan.start alterStatement.toList).map fun token => String.ofList (trimSpace token)

/-- How the tokenizer's one terminating rune stands for a scan: nothing open, one
parenthesis open (with or without a literal in it), or a literal open. -/
def TracksScan (terminatingQuote : Char) (scan : ClauseScan) : Prop :=
  (terminatingQuote = '\x00' ∧ scan.depth = 0 ∧ scan.quoted = false) ∨
  (terminatingQuote = ')' ∧ scan.depth = 1) ∨
  (terminatingQuote = '\'' ∧ scan.depth = 0 ∧ scan.quoted = true)

/-- On a flat rune the tokenizer's predicate answers as the scan does and keeps tracking it. -/
theorem tokenSeparator_simulates (terminatingQuote : Char) (scan : ClauseScan) (c : Char)
    (tracks : TracksScan terminatingQuote scan) (flat : scan.flat c = true) :
    (tokenSeparator terminatingQuote c).1 = (scan.next c).1 ∧
      TracksScan (tokenSeparator terminatingQuote c).2 (scan.next c).2 := by
  rcases scan with ⟨depth, quoted, escaped⟩
  rcases tracks with ⟨rfl, rfl, rfl⟩ | ⟨rfl, rfl⟩ | ⟨rfl, rfl, rfl⟩
  · -- nothing open: a quote or a parenthesis opens, a comma separates
    by_cases nul : c = '\x00'
    · subst nul
      simp [tokenSeparator, ClauseScan.next, ClauseScan.separates, ClauseScan.step, TracksScan]
    · by_cases quote : c = '\''
      · subst quote
        simp [tokenSeparator, ClauseScan.next, ClauseScan.separates, ClauseScan.step, TracksScan]
      · by_cases opening : c = '('
        · subst opening
          simp [tokenSeparator, ClauseScan.next, ClauseScan.separates, ClauseScan.step, TracksScan]
        · by_cases closing : c = ')'
          · subst closing
            simp [tokenSeparator, ClauseScan.next, ClauseScan.separates, ClauseScan.step, TracksScan]
          · simp [tokenSeparator, ClauseScan.next, ClauseScan.separates, ClauseScan.step, TracksScan, nul, quote,
              opening, closing]
  · cases quoted with
    | false =>
      -- one parenthesis open: its first `)` closes it; flatness rules out a nested `(`
      by_cases closing : c = ')'
      · subst closing
        simp [tokenSeparator, ClauseScan.next, ClauseScan.separates, ClauseScan.step, TracksScan]
      · have notOpening : c ≠ '(' := by rintro rfl; simp [ClauseScan.flat] at flat
        by_cases quote : c = '\''
        · subst quote
          simp [tokenSeparator, ClauseScan.next, ClauseScan.separates, ClauseScan.step, TracksScan]
        · simp [tokenSeparator, ClauseScan.next, ClauseScan.separates, ClauseScan.step, TracksScan, closing,
            notOpening, quote]
    | true =>
      -- a literal inside the parenthesis: flatness rules out a `)` in it
      have notClosing : c ≠ ')' := by rintro rfl; simp [ClauseScan.flat] at flat
      cases escaped <;> by_cases backslash : c = '\\' <;> by_cases quote : c = '\'' <;>
        simp [tokenSeparator, ClauseScan.next, ClauseScan.separates, ClauseScan.step, TracksScan, notClosing,
          backslash, quote]
  · -- a literal open: only an unescaped quote closes it
    by_cases quote : c = '\''
    · subst quote
      have unescaped : escaped = false := by cases escaped <;> simp_all [ClauseScan.flat]
      simp [tokenSeparator, ClauseScan.next, ClauseScan.separates, ClauseScan.step, TracksScan, unescaped]
    · cases escaped <;> by_cases backslash : c = '\\' <;>
        simp [tokenSeparator, ClauseScan.next, ClauseScan.separates, ClauseScan.step, TracksScan, quote, backslash]

/-- Off flat text the tokenizer splits inside a clause or misses a separator: a comma after
a nested parenthesis separates, a `)` inside a literal in parentheses closes the
parenthesis, and a backslash-escaped quote closes the literal. -/
theorem tokenizer_misreads_clauses :
    tokenizeAlterStatement "ADD INDEX idx ((LOWER(a)), b)" = ["ADD INDEX idx ((LOWER(a))", "b)"] ∧
    alterClauses "ADD INDEX idx ((LOWER(a)), b)" = ["ADD INDEX idx ((LOWER(a)), b)"] ∧
    tokenizeAlterStatement "MODIFY e ENUM(')', 'x'), ADD COLUMN f INT" = ["MODIFY e ENUM(')', 'x'), ADD COLUMN f INT"] ∧
    alterClauses "MODIFY e ENUM(')', 'x'), ADD COLUMN f INT" = ["MODIFY e ENUM(')', 'x')", "ADD COLUMN f INT"] ∧
    tokenizeAlterStatement "COMMENT 'it\\'s', DROP COLUMN d" = ["COMMENT 'it\\'s', DROP COLUMN d"] ∧
    alterClauses "COMMENT 'it\\'s', DROP COLUMN d" = ["COMMENT 'it\\'s'", "DROP COLUMN d"] := by
  decide

/-! ### The patterns of `parser.go` -/

/-- A word rune for `\b`: an ASCII letter or digit, or `_`. -/
def isWordChar (c : Char) : Bool :=
  c.isAlphanum || c == '_'

/-- `\s`: tab, newline, form feed, carriage return and space. -/
def isPerlSpace (c : Char) : Bool :=
  c == '\t' || c == '\n' || c == '\x0C' || c == '\r' || c == ' '

/-- The folding `(?i)` applies to an ASCII letter: the runes in its orbit under Go's simple
case folding fold to the lower-case letter, the long s and the Kelvin sign included. -/
def foldCase (c : Char) : Char :=
  if c = '\u017F' then 's' else if c = '\u212A' then 'k' else c.toLower

/-- A word under `(?i)`. -/
def caseless (word : String) : Regex Char :=
  .literal foldCase word.toList

/-- `\s+`. -/
def spaces : Regex Char :=
  .plus (.char isPerlSpace)

/-- `[\S]+`. -/
def nonSpaces : Regex Char :=
  .plus (.char fun c => !isPerlSpace c)

/-- `(?i)\balter\s+table\s+`, the head of the six patterns that find the table. -/
def alterTableHead : List (Regex Char) :=
  [.wordBoundary isWordChar, caseless "alter", spaces, caseless "table", spaces]

/-- A backquoted name, its body as group `index`. -/
def quotedName (index : Nat) : List (Regex Char) :=
  [.char (· == '\x60'), .group index (.plus (.char (· != '\x60'))), .char (· == '\x60')]

/-- `([\S]+)` as group `index`. -/
def bareName (index : Nat) : List (Regex Char) :=
  [.group index nonSpaces]

/-- `[.]`. -/
def dot : Regex Char :=
  .char (· == '.')

/-- `\s+(.*$)`, the options as group `index`; `.` does not match a newline. -/
def optionsTail (index : Nat) : List (Regex Char) :=
  [spaces, .group index (.concat [.star (.char (· != '\n')), .endText])]

/-- `alterTableExplicitSchemaTableRegexps`: a schema and a table, each backquoted or bare. -/
def alterTableExplicitSchemaTableRegexps : List (Regex Char) :=
  [.concat (alterTableHead ++ quotedName 1 ++ [dot] ++ quotedName 2 ++ optionsTail 3),
   .concat (alterTableHead ++ quotedName 1 ++ [dot] ++ bareName 2 ++ optionsTail 3),
   .concat (alterTableHead ++ bareName 1 ++ [dot] ++ quotedName 2 ++ optionsTail 3),
   .concat (alterTableHead ++ bareName 1 ++ [dot] ++ bareName 2 ++ optionsTail 3)]

/-- `alterTableExplicitTableRegexps`: a table, backquoted or bare. -/
def alterTableExplicitTableRegexps : List (Regex Char) :=
  [.concat (alterTableHead ++ quotedName 1 ++ optionsTail 2),
   .concat (alterTableHead ++ bareName 1 ++ optionsTail 2)]

/-- `sanitizeQuotesRegexp`: `('[^']*')`. -/
def sanitizeQuotesRegexp : Regex Char :=
  .group 1 (.concat [.char (· == '\''), .star (.char (· != '\'')), .char (· == '\'')])

/-- `renameColumnRegexp`: `(?i)\bchange\s+(column\s+|)([\S]+)\s+([\S]+)\s+`. -/
def renameColumnRegexp : Regex Char :=
  .concat [.wordBoundary isWordChar, caseless "change", spaces, .group 1 (.alt (.seq (caseless "column") spaces) .empty),
    .group 2 nonSpaces, spaces, .group 3 nonSpaces, spaces]

/-- `dropColumnRegexp`: `(?i)\bdrop\s+(column\s+|)([\S]+)$`. -/
def dropColumnRegexp : Regex Char :=
  .concat [.wordBoundary isWordChar, caseless "drop", spaces, .group 1 (.alt (.seq (caseless "column") spaces) .empty),
    .group 2 nonSpaces, .endText]

/-- `renameTableRegexp`: `(?i)\brename\s+(to|as)\s+`. -/
def renameTableRegexp : Regex Char :=
  .concat [.wordBoundary isWordChar, caseless "rename", spaces, .group 1 (.alt (caseless "to") (caseless "as")), spaces]

/-- `autoIncrementRegexp`: `(?i)\bauto_increment[\s]*=[\s]*([0-9]+)`. -/
def autoIncrementRegexp : Regex Char :=
  .concat [.wordBoundary isWordChar, caseless "auto_increment", .star (.char isPerlSpace), .char (· == '='),
    .star (.char isPerlSpace), .group 1 (.plus (.char Char.isDigit))]

/-- `enumValuesRegexp`: `^enum[(](.*)[)]$`; `.` does not match a newline. -/
def enumValuesRegexp : Regex Char :=
  .concat [.beginText, .literal id "enum".toList, .char (· == '('), .group 1 (.star (.char (· != '\n'))),
    .char (· == ')'), .endText]

/-! ### `ParseAlterStatement` -/

/-- `AlterTableParser`. The Go maps are association lists: `columnRenameMap` from a column to
its new name, and the keys of `droppedColumns`. -/
structure AlterTableParser where
  columnRenameMap : List (String × String) := []
  droppedColumns : List String := []
  isRenameTable : Bool := false
  isAutoIncrementDefined : Bool := false
  alterStatementOptions : String := ""
  alterTokens : List String := []
  explicitSchema : String := ""
  explicitTable : String := ""
  deriving DecidableEq, Repr

/-- `NewAlterTableParser`. -/
def newAlterTableParser : AlterTableParser := {}

/-- A Go map assignment `map[key] = value`. -/
def mapSet (map : List (String × String)) (key value : String) : List (String × String) :=
  if map.any (·.1 == key) then map.map fun entry => if entry.1 == key then (key, value) else entry
  else map ++ [(key, value)]

/-- A Go set insertion `set[key] = true`. -/
def setAdd (set : List String) (key : String) : List String :=
  if key ∈ set then set else set ++ [key]

/-- `submatch[index]` as a Go string. -/
def submatchText (submatch : Nat → Option (List Char)) (index : Nat) : String :=
  String.ofList (Regex.submatch submatch index)

/-- A name as `parseAlterToken` keeps it: unquoted when it is a Go string literal. -/
def unquoteOrSelf (name : String) : String :=
  (Go.Strconv.Unquote name).getD name

/-- `sanitizeQuotesFromAlterStatement`: every single-quoted literal becomes `''`. -/
def sanitizeQuotesFromAlterStatement (alterStatement : String) : String :=
  String.ofList (sanitizeQuotesRegexp.replaceAll alterStatement.toList "''".toList)

namespace AlterTableParser

/-- `parseAlterToken`: the renames and drops a clause names, and whether it renames the table
or sets `AUTO_INCREMENT`. -/
def parseAlterToken (this : AlterTableParser) (alterToken : String) : AlterTableParser :=
  let renamed := (renameColumnRegexp.findAll alterToken.toList).foldl (fun this submatch =>
    let column := unquoteOrSelf (submatchText submatch 2)
    let newName := unquoteOrSelf (submatchText submatch 3)
    { this with columnRenameMap := mapSet this.columnRenameMap column newName }) this
  let dropped := (dropColumnRegexp.findAll alterToken.toList).foldl (fun this submatch =>
    { this with droppedColumns := setAdd this.droppedColumns (unquoteOrSelf (submatchText submatch 2)) }) renamed
  let renamesTable := if renameTableRegexp.matchString alterToken.toList then { dropped with isRenameTable := true }
    else dropped
  if autoIncrementRegexp.matchString alterToken.toList then { renamesTable with isAutoIncrementDefined := true }
  else renamesTable

/-- The first of `regexps` that matches, as the loops of `ParseAlterStatement` try them. -/
def firstSubmatch (regexps : List (Regex Char)) (text : String) : Option (Nat → Option (List Char)) :=
  regexps.findSome? fun r => r.findSubmatch text.toList

/-- The two loops of `ParseAlterStatement` that read an explicit schema and table: the
first loop on the options, the second on the options the first left. -/
def readExplicitTable (this : AlterTableParser) : AlterTableParser :=
  let this := match firstSubmatch alterTableExplicitSchemaTableRegexps this.alterStatementOptions with
    | some submatch =>
      { this with
        explicitSchema := submatchText submatch 1
        explicitTable := submatchText submatch 2
        alterStatementOptions := submatchText submatch 3 }
    | none => this
  match firstSubmatch alterTableExplicitTableRegexps this.alterStatementOptions with
  | some submatch => { this with explicitTable := submatchText submatch 1, alterStatementOptions := submatchText submatch 2 }
  | none => this

/-- The token loop of `ParseAlterStatement`. -/
def parseAlterTokens (this : AlterTableParser) : AlterTableParser :=
  (tokenizeAlterStatement this.alterStatementOptions).foldl (fun this alterToken =>
    let alterToken := sanitizeQuotesFromAlterStatement alterToken
    let this := this.parseAlterToken alterToken
    { this with alterTokens := this.alterTokens ++ [alterToken] }) this

/-- `ParseAlterStatement`, which always returns a nil error. -/
def parseAlterStatement (this : AlterTableParser) (alterStatement : String) : AlterTableParser :=
  parseAlterTokens (readExplicitTable { this with alterStatementOptions := alterStatement })

end AlterTableParser

/-- `NewParserFromAlterStatement`. -/
def newParserFromAlterStatement (alterStatement : String) : AlterTableParser :=
  newAlterTableParser.parseAlterStatement alterStatement

/-- `ParseEnumValues`: the member list of an `enum(...)` column type, or the text itself
where the pattern does not match. -/
def parseEnumValues (enumColumnType : String) : String :=
  match enumValuesRegexp.findSubmatch enumColumnType.toList with
  | some submatch => submatchText submatch 1
  | none => enumColumnType

/-- The member list of an `enum(...)` type of one line is what stands between the
parentheses. -/
theorem parseEnumValues_enum {members : String} (oneLine : '\n' ∉ members.toList) :
    parseEnumValues ("enum(" ++ members ++ ")") = members := by
  have spelled : ("enum(" ++ members ++ ")").toList = "enum".toList ++ '(' :: (members.toList ++ [')']) := by
    simp
  have inClass : ∀ y ∈ members.toList, (y != '\n') = true := by
    intro y member
    simpa using fun same : y = '\n' => oneLine (same ▸ member)
  unfold parseEnumValues enumValuesRegexp
  rw [spelled, Regex.findSubmatch_beginText, Regex.matchAt_group]
  simp only [Regex.matchAt_concat_cons, Regex.matchAt_beginText_of_nil]
  have word : Regex.literal id "enum".toList = Regex.literal id ("enum".toList.map id) := by
    rw [List.map_id]
  -- `enum(` is read, then the star backs off to the closing parenthesis
  rw [word, Regex.matchAt_literal_append id, Regex.matchAt_char_cons (by rfl),
    Regex.matchAt_group_star_last 1 (by rfl) (by rfl) members.toList _ _ inClass]
  simp [submatchText, Regex.submatch]

example : parseEnumValues "enum('a','b')" = "'a','b'" := by decide

end GhOst.Sql
