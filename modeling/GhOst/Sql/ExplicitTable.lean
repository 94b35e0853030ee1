import GhOst.Sql.Parser
import GhOst.Lib.Lists

/-! The schema and the table `ParseAlterStatement` reads off the head of a statement.

The six patterns begin with `\balter\s+table\s+` and are not anchored, and the second pass
runs the table patterns again on the options the first pass left. On a statement that
starts with `ALTER TABLE` and holds the word `alter` nowhere else, a match can start at the
first position only; there the patterns read a schema and a table, each bare or
backquoted, and options of one line, as the statement writes them. On other statements
the passes read something else: options over several lines are not read at all, a later
`alter table` in the options is read as the table, and a backquoted table name that holds
a dot is split at the dot. -/

namespace GhOst.Sql

open Lib Regex

/-- How a statement writes a schema or a table name. -/
inductive NameForm where
  | bare
  | quoted
  deriving DecidableEq, Repr

namespace NameForm

/-- The name as the statement writes it. -/
def written : NameForm → String → String
  | bare, name => name
  | quoted, name => "`" ++ name ++ "`"

/-- A name the patterns read whole in this form: a bare name is a run of runes that are not
`\s`, a dot or a backquote, and a backquoted name has no backquote. -/
def valid : NameForm → String → Bool
  | bare, name => !name.toList.isEmpty && name.toList.all fun c => !isPerlSpace c && c != '.' && c != '\x60'
  | quoted, name => !name.toList.isEmpty && name.toList.all (· != '\x60')

theorem written_toList_bare (name : String) : (bare.written name).toList = name.toList := rfl

theorem written_toList_quoted (name : String) :
    (quoted.written name).toList = '\x60' :: (name.toList ++ ['\x60']) := by
  simp [written]

theorem valid_bare {name : String} (valid : bare.valid name = true) :
    name.toList ≠ [] ∧ ∀ c ∈ name.toList, isPerlSpace c = false ∧ c ≠ '.' ∧ c ≠ '\x60' := by
  simp only [NameForm.valid, Bool.and_eq_true, Bool.not_eq_true', List.isEmpty_eq_false_iff,
    List.all_eq_true, bne_iff_ne, ne_eq] at valid
  exact ⟨valid.1, fun c member => by simpa [and_assoc] using valid.2 c member⟩

theorem valid_quoted {name : String} (valid : quoted.valid name = true) :
    name.toList ≠ [] ∧ ∀ c ∈ name.toList, c ≠ '\x60' := by
  simp only [NameForm.valid, Bool.and_eq_true, Bool.not_eq_true', List.isEmpty_eq_false_iff,
    List.all_eq_true, bne_iff_ne, ne_eq] at valid
  exact valid

end NameForm

/-- Options the last group reads whole: its `.` stops at a newline, and the `\s+` before it
takes any leading space. -/
def singleLine (options : String) : Bool :=
  !options.toList.contains '\n' && !options.toList.head?.any isPerlSpace

/-- The word `alter` under `(?i)` occurs in a text: the patterns can start nowhere else. -/
def AlterIn (text : List Char) : Prop :=
  "alter".toList <:+: text.map foldCase

instance : DecidablePred AlterIn := fun text => inferInstanceAs (Decidable ("alter".toList <:+: text.map foldCase))

theorem alterIn_of_starts {zs text : List Char} (inside : zs <:+: text)
    (found : "alter".toList <+: zs.map foldCase) : AlterIn text :=
  found.isInfix.trans (inside.map foldCase)

/-- `ALTER TABLE schema.table options`, the names written as `schemaForm` and `tableForm`. -/
def alterSchemaTableStatement (schemaForm tableForm : NameForm) (schema table options : String) : String :=
  "ALTER TABLE " ++ schemaForm.written schema ++ "." ++ tableForm.written table ++ " " ++ options

/-- `ALTER TABLE table options`, the name written as `tableForm`. -/
def alterTableStatement (tableForm : NameForm) (table options : String) : String :=
  "ALTER TABLE " ++ tableForm.written table ++ " " ++ options

theorem alterSchemaTableStatement_toList (schemaForm tableForm : NameForm) (schema table options : String) :
    (alterSchemaTableStatement schemaForm tableForm schema table options).toList =
      "ALTER TABLE ".toList ++ ((schemaForm.written schema).toList ++
        '.' :: ((tableForm.written table).toList ++ ' ' :: options.toList)) := by
  show ("ALTER TABLE " ++ schemaForm.written schema ++ "." ++ tableForm.written table ++ " " ++ options).toList = _
  simp only [String.toList_append, List.append_assoc]
  rfl

theorem alterTableStatement_toList (tableForm : NameForm) (table options : String) :
    (alterTableStatement tableForm table options).toList =
      "ALTER TABLE ".toList ++ ((tableForm.written table).toList ++ ' ' :: options.toList) := by
  show ("ALTER TABLE " ++ tableForm.written table ++ " " ++ options).toList = _
  simp only [String.toList_append, List.append_assoc]
  rfl

theorem singleLine_parts {options : String} (oneLine : singleLine options = true) :
    '\n' ∉ options.toList ∧ ∀ y r, options.toList = y :: r → isPerlSpace y = false := by
  simp only [singleLine, Bool.and_eq_true, Bool.not_eq_true'] at oneLine
  refine ⟨by simpa using oneLine.1, fun y r spelled => ?_⟩
  simpa [spelled] using oneLine.2

/-- No dot stands in the run of non-spaces from a name without a dot up to the space after it. -/
theorem no_dot_before_space (form : NameForm) {name : String} (noDot : '.' ∉ name.toList) (rest : List Char) :
    ∀ y ∈ ((form.written name).toList ++ ' ' :: rest).takeWhile (fun c => !isPerlSpace c), y ≠ '.' := by
  intro y member
  have written := mem_of_mem_takeWhile_append_cons (p := fun c => !isPerlSpace c) (b := ' ') rfl member
  rintro rfl
  cases form with
  | bare => exact noDot written
  | quoted => simp [NameForm.written_toList_quoted, noDot] at written

/-! ### The pieces of the six patterns -/

section Pieces

variable {β : Type} {k : Cursor Char → Option β}

/-- Where the text holds no `alter` the head fails. -/
theorem matchAt_alterTableHead_of_not_prefix (tail : List (Regex Char)) {text : List Char}
    (absent : ¬ "alter".toList <+: text.map foldCase) (before : List Char) (captures) :
    matchAt (concat (alterTableHead ++ tail)) ⟨before, text, captures⟩ k = none := by
  rw [matchAt_concat_append]
  simp only [alterTableHead, matchAt_concat_cons, wordBoundary, matchAt_assert]
  split
  · exact matchAt_literal_of_not_prefix foldCase _ text before captures absent
  · rfl

/-- `\balter\s+table\s+` reads `ALTER TABLE ` before a text that does not start with a
space. -/
theorem matchAt_alterTableHead (tail : List (Regex Char)) (rest : List Char) (captures)
    (start : ∀ y r, rest = y :: r → isPerlSpace y = false) :
    matchAt (concat (alterTableHead ++ tail)) ⟨[], "ALTER TABLE ".toList ++ rest, captures⟩ k =
      matchAt (concat tail) ⟨"ALTER TABLE ".toList.reverse, rest, captures⟩ k := by
  have alterFolds : "alter".toList = "ALTER".toList.map foldCase := by decide
  have tableFolds : "table".toList = "TABLE".toList.map foldCase := by decide
  have spelled : "ALTER TABLE ".toList ++ rest = "ALTER".toList ++ ' ' :: ("TABLE".toList ++ ' ' :: rest) := by
    simp [show "ALTER TABLE ".toList = "ALTER".toList ++ ' ' :: ("TABLE".toList ++ [' ']) by decide]
  have afterSpace : ∀ y r, "TABLE".toList ++ ' ' :: rest = y :: r → isPerlSpace y = false := by
    rintro y r next
    rw [show "TABLE".toList = 'T' :: "ABLE".toList by decide, List.cons_append, List.cons.injEq] at next
    rw [← next.1]
    decide
  rw [matchAt_concat_append, spelled]
  simp only [alterTableHead, matchAt_concat_cons, caseless, alterFolds, tableFolds, spaces]
  -- `\b` holds before the first letter
  rw [wordBoundary, matchAt_assert, if_pos (by rfl), matchAt_literal_append foldCase,
    matchAt_plus_single _ _ _ rfl afterSpace, matchAt_literal_append foldCase, matchAt_plus_single _ _ _ rfl start]
  rfl

/-- A backquoted name, its body recorded as group `index`. -/
theorem matchAt_quotedName (index : Nat) (tail : List (Regex Char)) {name : List Char} (nonempty : name ≠ [])
    (noQuote : ∀ c ∈ name, c ≠ '\x60') (before rest : List Char) (captures) :
    matchAt (concat (quotedName index ++ tail)) ⟨before, '\x60' :: (name ++ '\x60' :: rest), captures⟩ k =
      matchAt (concat tail)
        ⟨'\x60' :: (name.reverse ++ '\x60' :: before), rest, Function.update captures index (some name)⟩ k := by
  obtain ⟨x, xs, rfl⟩ := List.exists_cons_of_ne_nil nonempty
  simp only [quotedName, List.cons_append, List.nil_append, matchAt_concat_cons]
  rw [matchAt_char_cons rfl]
  refine (matchAt_group_plus_run index ('\x60' :: rest) ('\x60' :: before) captures ?_ ?_ ?_).trans ?_
  · simpa using noQuote
  · rintro y rest' ⟨⟩
    rfl
  · -- the closing quote rejects an end inside the name
    rintro ⟨before', rest', captures'⟩ ⟨y, rest'', next, inside⟩
    refine matchAt_char_of_rejected (fun a r spelled => ?_) _
    simp only at next
    rw [next, List.cons.injEq] at spelled
    simpa [spelled.1] using inside
  · rw [matchAt_char_cons rfl]

/-- A backquoted name cannot start where the text does not start with a backquote. -/
theorem matchAt_quotedName_of_rejected (index : Nat) (tail : List (Regex Char)) {text : List Char}
    (unquoted : ∀ y r, text = y :: r → y ≠ '\x60') (before : List Char) (captures) :
    matchAt (concat (quotedName index ++ tail)) ⟨before, text, captures⟩ k = none := by
  simp only [quotedName, List.cons_append, matchAt_concat_cons]
  exact matchAt_char_of_rejected (fun y r next => by simpa using unquoted y r next) _

theorem matchAt_dot (tail : List (Regex Char)) (before rest : List Char) (captures) :
    matchAt (concat (dot :: tail)) ⟨before, '.' :: rest, captures⟩ k =
      matchAt (concat tail) ⟨'.' :: before, rest, captures⟩ k := by
  rw [matchAt_concat_cons, dot, matchAt_char_cons rfl]

theorem matchAt_dot_of_rejected (tail : List (Regex Char)) {c : Cursor Char}
    (elsewhere : ∀ rest, c.rest ≠ '.' :: rest) :
    matchAt (concat (dot :: tail)) c k = none := by
  rw [matchAt_concat_cons, dot]
  refine matchAt_char_of_rejected (fun y r next => ?_) _
  simp only [beq_eq_false_iff_ne, ne_eq]
  rintro rfl
  exact elsewhere r next

/-- A bare name before a dot, recorded as group `index`: the run of non-spaces after the dot
holds no other dot, so the name ends at the first one. -/
theorem matchAt_bareName_dot (index : Nat) (tail : List (Regex Char)) {name after : List Char}
    (nonempty : name ≠ []) (bareChars : ∀ c ∈ name, isPerlSpace c = false ∧ c ≠ '.')
    (afterRun : ∀ y ∈ after.takeWhile (fun c => !isPerlSpace c), y ≠ '.') (before : List Char) (captures) :
    matchAt (concat (bareName index ++ dot :: tail)) ⟨before, name ++ '.' :: after, captures⟩ k =
      matchAt (concat tail) ⟨'.' :: (name.reverse ++ before), after, Function.update captures index (some name)⟩ k := by
  obtain ⟨x, xs, rfl⟩ := List.exists_cons_of_ne_nil nonempty
  simp only [bareName, List.singleton_append, matchAt_concat_cons, nonSpaces]
  refine (matchAt_group_plus_before index before captures ?_ rfl ?_ afterRun ?_).trans ?_
  · simpa using fun c member => (bareChars c member).1
  · exact fun y member => (bareChars y (List.mem_cons_of_mem x member)).2
  · exact fun c elsewhere => matchAt_dot_of_rejected tail elsewhere
  · exact matchAt_dot tail _ _ _

/-- Where the run of non-spaces at the cursor holds no dot, a bare name before a dot fails. -/
theorem matchAt_bareName_dot_of_absent (index : Nat) (tail : List (Regex Char)) {text : List Char}
    (absent : ∀ y ∈ text.takeWhile (fun c => !isPerlSpace c), y ≠ '.') (before : List Char) (captures) :
    matchAt (concat (bareName index ++ dot :: tail)) ⟨before, text, captures⟩ k = none := by
  simp only [bareName, List.singleton_append, matchAt_concat_cons, nonSpaces]
  exact matchAt_group_plus_none_before index rfl text before captures absent
    fun c elsewhere => matchAt_dot_of_rejected tail elsewhere

/-- `\s+(.*$)`: one space, then options of one line that do not start with a space, recorded
as group `index`. -/
theorem matchAt_optionsTail (index : Nat) {options : List Char} (oneLine : '\n' ∉ options)
    (start : ∀ y r, options = y :: r → isPerlSpace y = false) (before : List Char) (captures) :
    matchAt (concat (optionsTail index)) ⟨before, ' ' :: options, captures⟩ k =
      k ⟨options.reverse ++ ' ' :: before, [], Function.update captures index (some options)⟩ := by
  simp only [optionsTail, matchAt_concat_cons, matchAt_concat_nil, spaces]
  rw [matchAt_plus_single _ _ _ rfl start]
  refine (matchAt_group_star_end index options (' ' :: before) captures ?_).trans rfl
  intro y member
  simpa using fun same : y = '\n' => oneLine (same ▸ member)

/-- A bare name before the options. -/
theorem matchAt_bareName_options (index options : Nat) {name rest : List Char} (nonempty : name ≠ [])
    (noSpace : ∀ c ∈ name, isPerlSpace c = false) (oneLine : '\n' ∉ rest)
    (start : ∀ y r, rest = y :: r → isPerlSpace y = false) (before : List Char) (captures) :
    matchAt (concat (bareName index ++ optionsTail options)) ⟨before, name ++ ' ' :: rest, captures⟩ k =
      k ⟨rest.reverse ++ ' ' :: (name.reverse ++ before), [],
        Function.update (Function.update captures index (some name)) options (some rest)⟩ := by
  obtain ⟨x, xs, rfl⟩ := List.exists_cons_of_ne_nil nonempty
  simp only [bareName, List.singleton_append, matchAt_concat_cons, nonSpaces]
  refine (matchAt_group_plus_run index (' ' :: rest) before captures ?_ ?_ ?_).trans ?_
  · simpa using noSpace
  · rintro y rest' ⟨⟩
    rfl
  · -- `\s+` rejects an end inside the name
    rintro ⟨before', rest', captures'⟩ ⟨y, rest'', next, inside⟩
    simp only [optionsTail, matchAt_concat_cons, spaces, plus, matchAt_seq]
    refine matchAt_char_of_rejected (fun a r spelled => ?_) _
    simp only at next
    rw [next, List.cons.injEq] at spelled
    simpa [spelled.1] using inside
  · exact matchAt_optionsTail options oneLine start _ _

end Pieces

/-! ### Where the six patterns match -/

/-- On a text whose only `alter` is at its start, a pattern of the six is tried at the first
position only. -/
theorem findSubmatch_alterTable (tail : List (Regex Char)) {text : List Char} (leading : ¬ AlterIn (text.drop 1)) :
    (concat (alterTableHead ++ tail)).findSubmatch text =
      ((group 0 (concat (alterTableHead ++ tail))).matchAt ⟨[], text, fun _ => none⟩ some).map Cursor.captures := by
  unfold findSubmatch
  rw [searchFrom_of_later_none [] text]
  intro ys zs split nonempty
  obtain ⟨y, ys', rfl⟩ := List.exists_cons_of_ne_nil nonempty
  subst split
  rw [matchAt_group]
  refine matchAt_alterTableHead_of_not_prefix tail (fun found => leading (alterIn_of_starts ?_ found)) _ _
  simpa using (List.suffix_append ys' zs).isInfix

/-- On a text without `alter` none of the six patterns matches. -/
theorem findSubmatch_alterTable_of_absent (tail : List (Regex Char)) {text : List Char} (absent : ¬ AlterIn text) :
    (concat (alterTableHead ++ tail)).findSubmatch text = none := by
  unfold findSubmatch
  rw [searchFrom_eq_none]
  · rfl
  · intro ys zs split
    rw [matchAt_group]
    refine matchAt_alterTableHead_of_not_prefix tail (fun found => absent (alterIn_of_starts ?_ found)) _ _
    rw [split]
    exact (List.suffix_append ys zs).isInfix

/-- A pattern whose tail reads all of the text after `ALTER TABLE ` finds the tail's
submatches, with the whole text as group 0. -/
theorem findSubmatch_alterTable_of_reads (tail : List (Regex Char)) {rest : List Char} {captures}
    (leading : ¬ AlterIn (("ALTER TABLE ".toList ++ rest).drop 1))
    (start : ∀ y r, rest = y :: r → isPerlSpace y = false)
    (reads : ∀ k : Cursor Char → Option (Cursor Char), ∃ before,
      matchAt (concat tail) ⟨"ALTER TABLE ".toList.reverse, rest, fun _ => none⟩ k = k ⟨before, [], captures⟩) :
    (concat (alterTableHead ++ tail)).findSubmatch ("ALTER TABLE ".toList ++ rest) =
      some (Function.update captures 0 (some ("ALTER TABLE ".toList ++ rest))) := by
  rw [findSubmatch_alterTable tail leading, matchAt_group, matchAt_alterTableHead tail rest _ start]
  obtain ⟨before, read⟩ := reads _
  rw [read]
  simp

/-- A pattern whose tail fails on the text after `ALTER TABLE ` does not match. -/
theorem findSubmatch_alterTable_of_fails (tail : List (Regex Char)) {rest : List Char}
    (leading : ¬ AlterIn (("ALTER TABLE ".toList ++ rest).drop 1))
    (start : ∀ y r, rest = y :: r → isPerlSpace y = false)
    (fails : ∀ k : Cursor Char → Option (Cursor Char),
      matchAt (concat tail) ⟨"ALTER TABLE ".toList.reverse, rest, fun _ => none⟩ k = none) :
    (concat (alterTableHead ++ tail)).findSubmatch ("ALTER TABLE ".toList ++ rest) = none := by
  rw [findSubmatch_alterTable tail leading, matchAt_group, matchAt_alterTableHead tail rest _ start, fails]
  rfl

/-- The patterns of the first pass, their common head apart. -/
theorem alterTableExplicitSchemaTableRegexps_eq : alterTableExplicitSchemaTableRegexps =
    [concat (alterTableHead ++ (quotedName 1 ++ dot :: (quotedName 2 ++ optionsTail 3))),
     concat (alterTableHead ++ (quotedName 1 ++ dot :: (bareName 2 ++ optionsTail 3))),
     concat (alterTableHead ++ (bareName 1 ++ dot :: (quotedName 2 ++ optionsTail 3))),
     concat (alterTableHead ++ (bareName 1 ++ dot :: (bareName 2 ++ optionsTail 3)))] := by
  simp [alterTableExplicitSchemaTableRegexps]

/-- The patterns of the second pass, their common head apart. -/
theorem alterTableExplicitTableRegexps_eq : alterTableExplicitTableRegexps =
    [concat (alterTableHead ++ (quotedName 1 ++ optionsTail 2)),
     concat (alterTableHead ++ (bareName 1 ++ optionsTail 2))] := by
  simp [alterTableExplicitTableRegexps]

/-- The first pass reads a schema and a table, each bare or backquoted, and options of one
line: the one pattern of the four for the two forms matches, and the ones before it fail. -/
theorem firstSubmatch_schemaTable (schemaForm tableForm : NameForm) {schema table options : String}
    (schemaValid : schemaForm.valid schema = true) (tableValid : tableForm.valid table = true)
    (noDot : '.' ∉ table.toList) (oneLine : singleLine options = true)
    (leading : ¬ AlterIn ((alterSchemaTableStatement schemaForm tableForm schema table options).toList.drop 1)) :
    ∃ captures, AlterTableParser.firstSubmatch alterTableExplicitSchemaTableRegexps
        (alterSchemaTableStatement schemaForm tableForm schema table options) = some captures ∧
      submatchText captures 1 = schema ∧ submatchText captures 2 = table ∧ submatchText captures 3 = options := by
  obtain ⟨newline, start⟩ := singleLine_parts oneLine
  rw [alterSchemaTableStatement_toList] at leading
  simp only [AlterTableParser.firstSubmatch, alterSchemaTableStatement_toList, alterTableExplicitSchemaTableRegexps_eq,
    List.findSome?_cons]
  cases schemaForm with
  | quoted =>
    obtain ⟨schemaNonempty, schemaNoQuote⟩ := NameForm.valid_quoted schemaValid
    cases tableForm with
    | quoted =>
      obtain ⟨tableNonempty, tableNoQuote⟩ := NameForm.valid_quoted tableValid
      simp only [NameForm.written_toList_quoted, List.cons_append, List.nil_append, List.append_assoc]
        at leading ⊢
      rw [findSubmatch_alterTable_of_reads _ leading (by rintro y r ⟨⟩; rfl) fun k => ⟨_, by
        rw [matchAt_quotedName 1 _ schemaNonempty schemaNoQuote, matchAt_dot,
          matchAt_quotedName 2 _ tableNonempty tableNoQuote, matchAt_optionsTail 3 newline start]⟩]
      simp [submatchText, Regex.submatch]
    | bare =>
      obtain ⟨tableNonempty, tableChars⟩ := NameForm.valid_bare tableValid
      simp only [NameForm.written_toList_quoted, NameForm.written_toList_bare, List.cons_append,
        List.nil_append, List.append_assoc] at leading ⊢
      -- a backquoted table is expected after the dot
      rw [findSubmatch_alterTable_of_fails _ leading (by rintro y r ⟨⟩; rfl) fun k => by
        rw [matchAt_quotedName 1 _ schemaNonempty schemaNoQuote, matchAt_dot,
          matchAt_quotedName_of_rejected 2 _ (head_of_append tableNonempty (fun c member => (tableChars c member).2.2) _)]]
      rw [findSubmatch_alterTable_of_reads _ leading (by rintro y r ⟨⟩; rfl) fun k => ⟨_, by
        rw [matchAt_quotedName 1 _ schemaNonempty schemaNoQuote, matchAt_dot,
          matchAt_bareName_options 2 3 tableNonempty (fun c member => (tableChars c member).1) newline start]⟩]
      simp [submatchText, Regex.submatch]
  | bare =>
    obtain ⟨schemaNonempty, schemaChars⟩ := NameForm.valid_bare schemaValid
    have schemaStart := head_of_append schemaNonempty (fun c member => (schemaChars c member).1)
    have schemaUnquoted := head_of_append schemaNonempty (fun c member => (schemaChars c member).2.2)
    have schemaBare : ∀ c ∈ schema.toList, isPerlSpace c = false ∧ c ≠ '.' :=
      fun c member => ⟨(schemaChars c member).1, (schemaChars c member).2.1⟩
    have afterDot := no_dot_before_space tableForm noDot options.toList
    cases tableForm with
    | quoted =>
      obtain ⟨tableNonempty, tableNoQuote⟩ := NameForm.valid_quoted tableValid
      simp only [NameForm.written_toList_quoted, NameForm.written_toList_bare, List.cons_append,
        List.nil_append, List.append_assoc] at leading afterDot ⊢
      rw [findSubmatch_alterTable_of_fails _ leading (schemaStart _) fun k =>
          matchAt_quotedName_of_rejected 1 _ (schemaUnquoted _) _ _,
        findSubmatch_alterTable_of_fails _ leading (schemaStart _) fun k =>
          matchAt_quotedName_of_rejected 1 _ (schemaUnquoted _) _ _,
        findSubmatch_alterTable_of_reads _ leading (schemaStart _) fun k => ⟨_, by
          rw [matchAt_bareName_dot 1 _ schemaNonempty schemaBare afterDot,
            matchAt_quotedName 2 _ tableNonempty tableNoQuote, matchAt_optionsTail 3 newline start]⟩]
      simp [submatchText, Regex.submatch]
    | bare =>
      obtain ⟨tableNonempty, tableChars⟩ := NameForm.valid_bare tableValid
      simp only [NameForm.written_toList_bare] at leading afterDot ⊢
      rw [findSubmatch_alterTable_of_fails _ leading (schemaStart _) fun k =>
          matchAt_quotedName_of_rejected 1 _ (schemaUnquoted _) _ _,
        findSubmatch_alterTable_of_fails _ leading (schemaStart _) fun k =>
          matchAt_quotedName_of_rejected 1 _ (schemaUnquoted _) _ _,
        -- a backquoted table is expected after the dot
        findSubmatch_alterTable_of_fails _ leading (schemaStart _) fun k => by
          rw [matchAt_bareName_dot 1 _ schemaNonempty schemaBare afterDot,
            matchAt_quotedName_of_rejected 2 _ (head_of_append tableNonempty (fun c member => (tableChars c member).2.2) _)],
        findSubmatch_alterTable_of_reads _ leading (schemaStart _) fun k => ⟨_, by
          rw [matchAt_bareName_dot 1 _ schemaNonempty schemaBare afterDot,
            matchAt_bareName_options 2 3 tableNonempty (fun c member => (tableChars c member).1) newline start]⟩]
      simp [submatchText, Regex.submatch]

/-- Without a schema the first pass fails: after a backquoted table a space stands where the
dot should, and the run of non-spaces a bare schema would take holds no dot. -/
theorem firstSubmatch_schemaTable_of_table (tableForm : NameForm) {table options : String}
    (tableValid : tableForm.valid table = true) (noDot : '.' ∉ table.toList)
    (leading : ¬ AlterIn ((alterTableStatement tableForm table options).toList.drop 1)) :
    AlterTableParser.firstSubmatch alterTableExplicitSchemaTableRegexps
      (alterTableStatement tableForm table options) = none := by
  rw [alterTableStatement_toList] at leading
  have bareFails : ∀ tail (k : Cursor Char → Option (Cursor Char)), matchAt (concat (bareName 1 ++ dot :: tail))
      ⟨"ALTER TABLE ".toList.reverse, (tableForm.written table).toList ++ ' ' :: options.toList, fun _ => none⟩ k =
        none :=
    fun tail k => matchAt_bareName_dot_of_absent 1 tail (no_dot_before_space tableForm noDot options.toList) _ _
  simp only [AlterTableParser.firstSubmatch, alterTableStatement_toList, alterTableExplicitSchemaTableRegexps_eq,
    List.findSome?_cons]
  cases tableForm with
  | quoted =>
    obtain ⟨tableNonempty, tableNoQuote⟩ := NameForm.valid_quoted tableValid
    simp only [NameForm.written_toList_quoted, List.cons_append, List.nil_append, List.append_assoc]
      at leading bareFails ⊢
    have quotedFails : ∀ tail (k : Cursor Char → Option (Cursor Char)), matchAt (concat (quotedName 1 ++ dot :: tail))
        ⟨"ALTER TABLE ".toList.reverse, '\x60' :: (table.toList ++ '\x60' :: ' ' :: options.toList), fun _ => none⟩ k =
          none := by
      intro tail k
      rw [matchAt_quotedName 1 _ tableNonempty tableNoQuote, matchAt_dot_of_rejected _ (by simp)]
    have start : ∀ y r, '\x60' :: (table.toList ++ '\x60' :: ' ' :: options.toList) = y :: r → isPerlSpace y = false := by
      rintro y r ⟨⟩
      rfl
    rw [findSubmatch_alterTable_of_fails _ leading start (quotedFails _),
      findSubmatch_alterTable_of_fails _ leading start (quotedFails _),
      findSubmatch_alterTable_of_fails _ leading start (bareFails _),
      findSubmatch_alterTable_of_fails _ leading start (bareFails _)]
    rfl
  | bare =>
    obtain ⟨tableNonempty, tableChars⟩ := NameForm.valid_bare tableValid
    simp only [NameForm.written_toList_bare] at leading bareFails ⊢
    have start := head_of_append tableNonempty (fun c member => (tableChars c member).1) (' ' :: options.toList)
    have quotedFails : ∀ tail (k : Cursor Char → Option (Cursor Char)), matchAt (concat (quotedName 1 ++ dot :: tail))
        ⟨"ALTER TABLE ".toList.reverse, table.toList ++ ' ' :: options.toList, fun _ => none⟩ k = none :=
      fun tail k => matchAt_quotedName_of_rejected 1 _
        (head_of_append tableNonempty (fun c member => (tableChars c member).2.2) _) _ _
    rw [findSubmatch_alterTable_of_fails _ leading start (quotedFails _),
      findSubmatch_alterTable_of_fails _ leading start (quotedFails _),
      findSubmatch_alterTable_of_fails _ leading start (bareFails _),
      findSubmatch_alterTable_of_fails _ leading start (bareFails _)]
    rfl

/-- Without a schema the second pass reads the table and the options. -/
theorem firstSubmatch_table (tableForm : NameForm) {table options : String}
    (tableValid : tableForm.valid table = true) (oneLine : singleLine options = true)
    (leading : ¬ AlterIn ((alterTableStatement tableForm table options).toList.drop 1)) :
    ∃ captures, AlterTableParser.firstSubmatch alterTableExplicitTableRegexps
        (alterTableStatement tableForm table options) = some captures ∧
      submatchText captures 1 = table ∧ submatchText captures 2 = options := by
  obtain ⟨newline, start⟩ := singleLine_parts oneLine
  rw [alterTableStatement_toList] at leading
  simp only [AlterTableParser.firstSubmatch, alterTableStatement_toList, alterTableExplicitTableRegexps_eq,
    List.findSome?_cons]
  cases tableForm with
  | quoted =>
    obtain ⟨tableNonempty, tableNoQuote⟩ := NameForm.valid_quoted tableValid
    simp only [NameForm.written_toList_quoted, List.cons_append, List.nil_append, List.append_assoc] at leading ⊢
    rw [findSubmatch_alterTable_of_reads _ leading (by rintro y r ⟨⟩; rfl) fun k => ⟨_, by
      rw [matchAt_quotedName 1 _ tableNonempty tableNoQuote, matchAt_optionsTail 2 newline start]⟩]
    simp [submatchText, Regex.submatch]
  | bare =>
    obtain ⟨tableNonempty, tableChars⟩ := NameForm.valid_bare tableValid
    simp only [NameForm.written_toList_bare] at leading ⊢
    have tableStart := head_of_append tableNonempty (fun c member => (tableChars c member).1) (' ' :: options.toList)
    rw [findSubmatch_alterTable_of_fails _ leading tableStart fun k => matchAt_quotedName_of_rejected 1 _
        (head_of_append tableNonempty (fun c member => (tableChars c member).2.2) _) _ _,
      findSubmatch_alterTable_of_reads _ leading tableStart fun k => ⟨_, by
        rw [matchAt_bareName_options 1 2 tableNonempty (fun c member => (tableChars c member).1) newline start]⟩]
    simp [submatchText, Regex.submatch]

theorem firstSubmatch_schemaTable_of_absent {text : String} (absent : ¬ AlterIn text.toList) :
    AlterTableParser.firstSubmatch alterTableExplicitSchemaTableRegexps text = none := by
  simp [AlterTableParser.firstSubmatch, alterTableExplicitSchemaTableRegexps_eq,
    findSubmatch_alterTable_of_absent _ absent]

theorem firstSubmatch_table_of_absent {text : String} (absent : ¬ AlterIn text.toList) :
    AlterTableParser.firstSubmatch alterTableExplicitTableRegexps text = none := by
  simp [AlterTableParser.firstSubmatch, alterTableExplicitTableRegexps_eq, findSubmatch_alterTable_of_absent _ absent]

/-! ### `ParseAlterStatement` -/

namespace AlterTableParser

/-- What the two passes set: the schema, the table and the options. -/
def explicitPart (this : AlterTableParser) : String × String × String :=
  (this.explicitSchema, this.explicitTable, this.alterStatementOptions)

/-- A clause sets only the renames, the drops and the two flags. -/
theorem parseAlterToken_explicitPart (this : AlterTableParser) (alterToken : String) :
    (this.parseAlterToken alterToken).explicitPart = this.explicitPart := by
  unfold parseAlterToken
  -- the flags aside, the clause is the two loops over the renames and the drops
  split_ifs <;>
    exact (foldl_keeps explicitPart (by intros; rfl) _ _).trans (foldl_keeps explicitPart (by intros; rfl) _ _)

/-- The token loop leaves what the two passes set. -/
theorem parseAlterTokens_explicitPart (this : AlterTableParser) :
    this.parseAlterTokens.explicitPart = this.explicitPart := by
  unfold parseAlterTokens
  refine foldl_keeps explicitPart (fun this alterToken => ?_) _ _
  simpa only [explicitPart] using parseAlterToken_explicitPart this (sanitizeQuotesFromAlterStatement alterToken)

theorem newParserFromAlterStatement_explicitPart (alterStatement : String) :
    (newParserFromAlterStatement alterStatement).explicitPart =
      (readExplicitTable { newAlterTableParser with alterStatementOptions := alterStatement }).explicitPart :=
  parseAlterTokens_explicitPart _

end AlterTableParser

open AlterTableParser

/-- With a schema, the first pass reads the schema, the table and the options, and the
second pass finds no `alter` in the options. -/
theorem newParserFromAlterStatement_schemaTable (schemaForm tableForm : NameForm) {schema table options : String}
    (schemaValid : schemaForm.valid schema = true) (tableValid : tableForm.valid table = true)
    (noDot : '.' ∉ table.toList) (oneLine : singleLine options = true)
    (leading : ¬ AlterIn ((alterSchemaTableStatement schemaForm tableForm schema table options).toList.drop 1)) :
    (newParserFromAlterStatement (alterSchemaTableStatement schemaForm tableForm schema table options)).explicitPart =
      (schema, table, options) := by
  obtain ⟨captures, first, schemaRead, tableRead, optionsRead⟩ :=
    firstSubmatch_schemaTable schemaForm tableForm schemaValid tableValid noDot oneLine leading
  have suffix : options.toList <:+
      (alterSchemaTableStatement schemaForm tableForm schema table options).toList.drop 1 := by
    rw [alterSchemaTableStatement_toList, show "ALTER TABLE ".toList = 'A' :: "LTER TABLE ".toList by decide]
    exact ⟨"LTER TABLE ".toList ++ ((schemaForm.written schema).toList ++
      '.' :: ((tableForm.written table).toList ++ [' '])), by simp⟩
  have second := firstSubmatch_table_of_absent (fun found => leading (found.trans (suffix.isInfix.map foldCase)))
  rw [newParserFromAlterStatement_explicitPart]
  -- `delta`: the equation lemmas of `readExplicitTable` are slow to generate
  delta readExplicitTable
  simp only [first, optionsRead, second, explicitPart, schemaRead, tableRead]

/-- Without a schema, the first pass fails and the second reads the table and the options. -/
theorem newParserFromAlterStatement_table (tableForm : NameForm) {table options : String}
    (tableValid : tableForm.valid table = true) (noDot : '.' ∉ table.toList) (oneLine : singleLine options = true)
    (leading : ¬ AlterIn ((alterTableStatement tableForm table options).toList.drop 1)) :
    (newParserFromAlterStatement (alterTableStatement tableForm table options)).explicitPart = ("", table, options) := by
  obtain ⟨captures, second, tableRead, optionsRead⟩ := firstSubmatch_table tableForm tableValid oneLine leading
  rw [newParserFromAlterStatement_explicitPart]
  delta readExplicitTable
  simp only [firstSubmatch_schemaTable_of_table tableForm tableValid noDot leading, second, explicitPart, tableRead,
    optionsRead, newAlterTableParser]

/-- A statement without `alter` is all options. -/
theorem newParserFromAlterStatement_of_absent {statement : String} (absent : ¬ AlterIn statement.toList) :
    (newParserFromAlterStatement statement).explicitPart = ("", "", statement) := by
  rw [newParserFromAlterStatement_explicitPart]
  delta readExplicitTable
  simp only [firstSubmatch_schemaTable_of_absent absent, firstSubmatch_table_of_absent absent, explicitPart,
    newAlterTableParser]

end GhOst.Sql
