import GhOst.Sql.ExplicitTable

/-! The column renames and drops `ParseAlterStatement` reads off the options of an
ALTER. The options are clauses joined by `", "`; a clause renames a column
(`CHANGE [COLUMN] column newName definition`), drops one (`DROP [COLUMN] column`), or
does neither. The tokenizer splits the options back into the clauses, the quote
sanitizer leaves a clause without a quote as it is, and `renameColumnRegexp` and
`dropColumnRegexp` each find the one match a clause of their kind holds and none in
the other clauses. So `columnRenameMap` maps each renamed column to its new name, the
last clause winning, and `droppedColumns` lists the dropped columns, each name
unquoted by `strconv.Unquote` where it is a Go string literal (a backquoted name loses
its backquotes).

A clause reads so when its names are runs of runes that are no space, no clause has a
quote or a comma outside its parentheses, and the words the patterns look for stand
only where the clause's kind puts them. The MySQL 8 form `RENAME COLUMN a TO b` is not
among the forms the patterns know: the parser finds no rename in it. -/

namespace GhOst.Sql

open Lib Regex Go.Strings

/-- A word under `(?i)` occurs in a text. -/
def caselessIn (word text : String) : Bool :=
  decide (word.toList <:+: text.toList.map foldCase)

/-- A clause of an ALTER's options, as `parseAlterToken` reads it. -/
inductive AlterClause where
  /-- `CHANGE [COLUMN] column newName definition` -/
  | change (withColumn : Bool) (column newName definition : String)
  /-- `DROP [COLUMN] column` -/
  | drop (withColumn : Bool) (column : String)
  /-- a clause that neither renames nor drops a column, such as `ADD COLUMN ...` -/
  | other (clause : String)
  deriving DecidableEq, Repr

/-- A name the patterns read whole: a non-empty run of runes that are no space. -/
def plainName (name : String) : Bool :=
  !name.toList.isEmpty && name.toList.all fun c => !isSpace c

/-- Text that starts and ends with a rune that is no space, as `TrimSpace` leaves it. -/
def trimmed (text : String) : Bool :=
  !text.toList.isEmpty && !(text.toList.head?.any isSpace) && !(text.toList.getLast?.any isSpace)

/-- Text the tokenizer and the sanitizer leave whole: no quote, and the tokenizer's
predicate, from outside every parenthesis, selects no comma in it and is outside every
parenthesis again at its end. -/
def unbrokenClause (text : String) : Bool :=
  !text.toList.contains '\'' && readUnbroken tokenSeparator '\x00' text.toList == some '\x00'

namespace AlterClause

/-- `COLUMN ` where the clause has it. -/
def columnWord (withColumn : Bool) : String :=
  if withColumn then "COLUMN " else ""

/-- The clause as written. -/
def text : AlterClause → String
  | change withColumn column newName definition =>
    "CHANGE " ++ columnWord withColumn ++ column ++ " " ++ newName ++ " " ++ definition
  | drop withColumn column => "DROP " ++ columnWord withColumn ++ column
  | other clause => clause

theorem text_change (withColumn : Bool) (column newName definition : String) :
    (change withColumn column newName definition).text =
      "CHANGE " ++ columnWord withColumn ++ column ++ " " ++ newName ++ " " ++ definition := rfl

theorem text_drop (withColumn : Bool) (column : String) :
    (drop withColumn column).text = "DROP " ++ columnWord withColumn ++ column := rfl

theorem text_other (clause : String) : (other clause).text = clause := rfl

/-- A clause `parseAlterToken` reads as it is meant: its names whole, no `change` or
`drop` where the clause's kind does not put one, and no `alter` anywhere. Without
`COLUMN`, a rename's first name is not the word `column` itself, which MySQL reserves. -/
def readable : AlterClause → Bool
  | change withColumn column newName definition =>
    plainName column && plainName newName && trimmed definition &&
      (withColumn || column.toList.map foldCase != "column".toList) && !caselessIn "change" definition &&
      !caselessIn "drop" (change withColumn column newName definition).text &&
      !caselessIn "alter" (change withColumn column newName definition).text &&
      unbrokenClause (change withColumn column newName definition).text
  | drop withColumn column =>
    plainName column && !caselessIn "change" (drop withColumn column).text &&
      !caselessIn "alter" (drop withColumn column).text && unbrokenClause (drop withColumn column).text
  | other clause =>
    trimmed clause && !caselessIn "change" clause && !caselessIn "drop" clause && !caselessIn "alter" clause &&
      unbrokenClause clause

/-- The rename a clause makes, set in a map of renames. -/
def renameInto (map : List (String × String)) : AlterClause → List (String × String)
  | change _ column newName _ => mapSet map (unquoteOrSelf column) (unquoteOrSelf newName)
  | _ => map

/-- The column a clause drops, added to a set of columns. -/
def dropInto (set : List String) : AlterClause → List String
  | drop _ column => setAdd set (unquoteOrSelf column)
  | _ => set

end AlterClause

/-- The renames of the clauses, as `columnRenameMap` should hold them: from each renamed
column to its new name, the later clause winning. -/
def clauseRenames (clauses : List AlterClause) : List (String × String) :=
  clauses.foldl AlterClause.renameInto []

/-- The columns the clauses drop, in order, each once. -/
def clauseDrops (clauses : List AlterClause) : List String :=
  clauses.foldl AlterClause.dropInto []

/-! ### The tokenizer and the sanitizer leave the clauses whole -/

theorem intercalate_append_cons {α : Type} (sep front part : List α) :
    ∀ parts : List (List α), sep.intercalate ((front ++ part) :: parts) = front ++ sep.intercalate (part :: parts)
  | [] => by simp
  | next :: parts => by simp [List.intercalate_cons_cons]

/-- Joining with a longer separator is joining with its first rune, the rest of it opening
each later part. -/
theorem intercalate_cons_eq {α : Type} (first : α) (rest : List α) :
    ∀ (part : List α) (parts : List (List α)),
      (first :: rest).intercalate (part :: parts) = [first].intercalate (part :: parts.map (rest ++ ·))
  | part, [] => by simp
  | part, next :: parts => by
    rw [List.intercalate_cons_cons, intercalate_cons_eq first rest next parts, List.map_cons,
      List.intercalate_cons_cons, intercalate_append_cons]
    simp

theorem trimSpace_of_trimmed {text : String} (trim : trimmed text = true) : trimSpace text.toList = text.toList := by
  simp only [trimmed, Bool.and_eq_true, Bool.not_eq_true', List.isEmpty_eq_false_iff, Option.any_eq_false] at trim
  obtain ⟨⟨nonempty, first⟩, last⟩ := trim
  obtain ⟨c, rest, spelled⟩ := List.exists_cons_of_ne_nil nonempty
  have keptFront : text.toList.dropWhile isSpace = text.toList := by
    rw [spelled, List.dropWhile_cons_of_neg (by simpa [spelled] using first c)]
  have keptBack : text.toList.reverse.dropWhile isSpace = text.toList.reverse := by
    obtain ⟨d, rest', reversed⟩ := List.exists_cons_of_ne_nil (List.reverse_ne_nil_iff.mpr nonempty)
    have isLast : text.toList.getLast? = some d := by
      rw [← List.head?_reverse, reversed]
      rfl
    rw [reversed, List.dropWhile_cons_of_neg (by simpa using last d isLast)]
  unfold trimSpace
  rw [keptFront, keptBack, List.reverse_reverse]

theorem trimSpace_space_of_trimmed {text : String} (trim : trimmed text = true) :
    trimSpace (' ' :: text.toList) = text.toList := by
  have nonempty : text.toList ≠ [] := by
    simp only [trimmed, Bool.and_eq_true, Bool.not_eq_true', List.isEmpty_eq_false_iff] at trim
    exact trim.1.1
  obtain ⟨c, rest, spelled⟩ := List.exists_cons_of_ne_nil nonempty
  have first : isSpace c = false := by
    simp only [trimmed, Bool.and_eq_true, Bool.not_eq_true', Option.any_eq_false, spelled] at trim
    simpa using trim.1.2 c rfl
  have dropped : (' ' :: text.toList).dropWhile isSpace = text.toList.dropWhile isSpace := by
    rw [List.dropWhile_cons_of_pos (by decide), spelled, List.dropWhile_cons_of_neg (by simp [first])]
  have same := trimSpace_of_trimmed trim
  unfold trimSpace at same ⊢
  rw [dropped]
  exact same

/-- Texts joined by `", "` are the runes of the texts joined at the comma, each later
one opening with the space. -/
theorem intercalate_comma_toList (first : String) (later : List String) :
    (", ".intercalate (first :: later)).toList =
      [','].intercalate (first.toList :: later.map fun text => ' ' :: text.toList) := by
  rw [String.toList_intercalate, List.map_cons, show ", ".toList = [',', ' '] by rfl, intercalate_cons_eq,
    List.map_map]
  rfl

/-- On clauses joined by `", "`, the tokenizer gives back the clauses. -/
theorem tokenizeAlterStatement_intercalate {texts : List String}
    (whole : ∀ text ∈ texts, unbrokenClause text = true ∧ trimmed text = true) :
    tokenizeAlterStatement (", ".intercalate texts) = texts := by
  cases texts with
  | nil => rfl
  | cons first later =>
    have unbroken {text : String} (member : text ∈ first :: later) :
        readUnbroken tokenSeparator '\x00' text.toList = some '\x00' := by
      have clause := (whole text member).1
      simp only [unbrokenClause, Bool.and_eq_true, beq_iff_eq] at clause
      exact clause.2
    have nonempty {text : String} (member : text ∈ first :: later) : text.toList ≠ [] := by
      have trim := (whole text member).2
      simp only [trimmed, Bool.and_eq_true, Bool.not_eq_true', List.isEmpty_eq_false_iff] at trim
      exact trim.1.1
    unfold tokenizeAlterStatement
    rw [intercalate_comma_toList, fieldsFunc_intercalate tokenSeparator (by decide)]
    · simp only [List.map_cons, List.map_map]
      rw [trimSpace_of_trimmed (whole first List.mem_cons_self).2]
      congr 1
      · simp
      · conv => rhs; rw [← List.map_id later]
        apply List.map_congr_left
        intro text member
        simp [trimSpace_space_of_trimmed (whole text (List.mem_cons_of_mem first member)).2]
    · intro part member
      rcases List.mem_cons.mp member with rfl | inLater
      · exact ⟨nonempty List.mem_cons_self, unbroken List.mem_cons_self⟩
      · obtain ⟨text, inTexts, rfl⟩ := List.mem_map.mp inLater
        -- the space after the comma keeps the predicate outside every parenthesis
        refine ⟨List.cons_ne_nil _ _, ?_⟩
        rw [readUnbroken, if_neg (by decide)]
        exact unbroken (List.mem_cons_of_mem first inTexts)

/-- The sanitizer leaves a text without a quote as it is. -/
theorem sanitizeQuotesFromAlterStatement_of_unquoted {text : String} (unquoted : '\'' ∉ text.toList) :
    sanitizeQuotesFromAlterStatement text = text := by
  have nowhere : (group 0 sanitizeQuotesRegexp).searchFrom [] text.toList = none := by
    apply searchFrom_eq_none
    intro ys zs split
    simp only [sanitizeQuotesRegexp, matchAt_group, matchAt_concat_cons]
    apply matchAt_char_of_rejected
    intro y rest next
    have member : y ∈ text.toList := by simp [split, show zs = y :: rest from next]
    simpa using fun same : y = '\'' => unquoted (same ▸ member)
  unfold sanitizeQuotesFromAlterStatement Regex.replaceAll
  simp [Regex.replaceAllFrom, nowhere]

/-! ### The patterns on one clause -/

/-- A word without `d` that is no prefix of `xs` is no prefix of `xs ++ d :: ys`. -/
theorem not_prefix_append_cons {α : Type} {d : α} (ys : List α) :
    ∀ {word xs : List α}, d ∉ word → ¬ word <+: xs → ¬ word <+: xs ++ d :: ys
  | [], _, _, notPrefix => absurd List.nil_prefix notPrefix
  | w :: word, [], absent, _ => by
    rintro ⟨tail, spelled⟩
    simp only [List.cons_append, List.nil_append, List.cons.injEq] at spelled
    exact absent (spelled.1 ▸ List.mem_cons_self)
  | w :: word, x :: xs, absent, notPrefix => by
    rintro ⟨tail, spelled⟩
    simp only [List.cons_append, List.cons.injEq] at spelled
    obtain ⟨rfl, spelled⟩ := spelled
    have later : ¬ word <+: xs := fun found => notPrefix (List.cons_prefix_cons.mpr ⟨rfl, found⟩)
    exact not_prefix_append_cons ys (fun member => absent (List.mem_cons_of_mem w member)) later ⟨tail, spelled⟩

section Patterns

variable {β : Type} {k : Cursor Char → Option β}

/-- `\bword\s+` at the start of a clause that spells the word, before a rune that is no `\s`. -/
theorem matchAt_keyword (tail : List (Regex Char)) {spelling : List Char} {word : String}
    (folds : spelling.map foldCase = word.toList) {c : Char} {more : List Char} (spelled : spelling = c :: more)
    (letter : isWordChar c = true) (rest : List Char) (captures)
    (start : ∀ y r, rest = y :: r → isPerlSpace y = false) :
    matchAt (concat (wordBoundary isWordChar :: caseless word :: spaces :: tail))
        ⟨[], spelling ++ ' ' :: rest, captures⟩ k =
      matchAt (concat tail) ⟨' ' :: spelling.reverse, rest, captures⟩ k := by
  simp only [matchAt_concat_cons, caseless, ← folds, spaces]
  rw [wordBoundary, matchAt_assert, if_pos (by simp [spelled, letter]), matchAt_literal_append foldCase,
    matchAt_plus_single _ _ _ rfl start]
  simp

/-- `(column\s+|)` before `COLUMN ` and a rune that is no `\s`: the word and its space
are tried first. -/
theorem matchAt_columnOption_of_word (rest before : List Char) (captures)
    (start : ∀ y r, rest = y :: r → isPerlSpace y = false) :
    matchAt (.group 1 (.alt (.seq (caseless "column") spaces) .empty)) ⟨before, "COLUMN".toList ++ ' ' :: rest, captures⟩ k =
      (k ⟨' ' :: ("COLUMN".toList.reverse ++ before), rest, Function.update captures 1 (some "COLUMN ".toList)⟩).orElse
        fun _ => k ⟨before, "COLUMN".toList ++ ' ' :: rest, Function.update captures 1 (some [])⟩ := by
  have folds : "column".toList = "COLUMN".toList.map foldCase := by decide
  have taken : ("COLUMN".toList ++ ' ' :: rest).take (("COLUMN".toList ++ ' ' :: rest).length - rest.length) =
      "COLUMN ".toList := by
    rw [show "COLUMN".toList ++ ' ' :: rest = "COLUMN ".toList ++ rest by simp, take_append_length_sub]
  rw [matchAt_group, matchAt_alt, matchAt_seq, caseless, folds, matchAt_literal_append foldCase,
    spaces, matchAt_plus_single _ _ _ rfl start]
  simp only [taken, Nat.sub_self, List.take_zero, matchAt_empty]

/-- `(column\s+|)` before a name that is not the word `column` itself where a space
follows it: the empty alternative. -/
theorem matchAt_columnOption_of_name {name after : List Char} (before : List Char) (captures)
    (plain : ∀ y ∈ name, isPerlSpace y = false) (ends : after = [] ∨ ∃ r, after = ' ' :: r)
    (notWord : after ≠ [] → name.map foldCase ≠ "column".toList) :
    matchAt (.group 1 (.alt (.seq (caseless "column") spaces) .empty)) ⟨before, name ++ after, captures⟩ k =
      k ⟨before, name ++ after, Function.update captures 1 (some [])⟩ := by
  have wordFails : ∀ k' : Cursor Char → Option β,
      matchAt (.seq (caseless "column") spaces) ⟨before, name ++ after, captures⟩ k' = none := by
    intro k'
    rw [matchAt_seq, caseless]
    by_cases starts : "column".toList <+: name.map foldCase
    · -- the word is read off the name, and `\s+` then meets the rest of the name or the end
      have front : (name.take 6).map foldCase = "column".toList := by
        rw [List.map_take]
        simpa using (List.prefix_iff_eq_take.mp starts).symm
      rw [← List.take_append_drop 6 name, List.append_assoc, ← front, matchAt_literal_append foldCase]
      cases dropped : name.drop 6 with
      | cons d ds =>
        have inName : d ∈ name := List.mem_of_mem_drop (by rw [dropped]; exact List.mem_cons_self)
        simp only [spaces, plus, matchAt_seq, List.cons_append]
        exact matchAt_char_of_rejected (by rintro y r ⟨⟩; simpa using plain d inName) _
      | nil =>
        have whole : name.map foldCase = "column".toList := by
          rw [← List.take_append_drop 6 name, dropped, List.append_nil, front]
        have atEnd : after = [] := by
          by_contra nonemptyAfter
          exact notWord nonemptyAfter whole
        subst atEnd
        simp only [spaces, plus, matchAt_seq, List.nil_append]
        exact matchAt_char_of_rejected (by rintro y r ⟨⟩) _
    · -- the name does not start with the word, and the space after it is not in the word
      have notPrefix : ¬ "column".toList <+: (name ++ after).map foldCase := by
        rcases ends with rfl | ⟨r, rfl⟩
        · simpa using starts
        · rw [List.map_append, List.map_cons]
          exact not_prefix_append_cons _ (by decide) starts
      exact matchAt_literal_of_not_prefix foldCase _ _ before captures notPrefix
  rw [matchAt_group, matchAt_alt, wordFails]
  simp

/-- `(column\s+|)` before a name that ends the text: the empty alternative, even where the
name is the word `column`, as `\s+` then meets the end. -/
theorem matchAt_columnOption_of_last {name : List Char} (before : List Char) (captures)
    (plain : ∀ y ∈ name, isPerlSpace y = false) :
    matchAt (.group 1 (.alt (.seq (caseless "column") spaces) .empty)) ⟨before, name, captures⟩ k =
      k ⟨before, name, Function.update captures 1 (some [])⟩ := by
  rw [← List.append_nil name]
  exact matchAt_columnOption_of_name before captures plain (.inl rfl) fun nonempty => absurd rfl nonempty

/-- `\s+` reads one space before a rune that is no `\s`. -/
theorem matchAt_spaces_single (rest before : List Char) (captures) (start : ∀ y r, rest = y :: r → isPerlSpace y = false) :
    matchAt spaces ⟨before, ' ' :: rest, captures⟩ k = k ⟨' ' :: before, rest, captures⟩ :=
  matchAt_plus_single _ _ _ rfl start

/-- `\s+` fails where the next rune is no `\s`. -/
theorem matchAt_spaces_of_nonSpace (tail : List (Regex Char)) {c : Cursor Char}
    (next : ∃ y rest, c.rest = y :: rest ∧ (!isPerlSpace y) = true) : matchAt (concat (spaces :: tail)) c k = none := by
  obtain ⟨y, rest, ahead, nonSpace⟩ := next
  simp only [matchAt_concat_cons, spaces, plus, matchAt_seq]
  refine matchAt_char_of_rejected ?_ _
  intro z more same
  rw [ahead, List.cons.injEq] at same
  rw [← same.1]
  simpa using nonSpace

/-- `([\S]+)\s+([\S]+)\s+` on two names and a definition that does not start with `\s`:
the names as groups 2 and 3, and the match ends at the definition. -/
theorem matchAt_renamedNames {column newName definition : List Char} (before : List Char) (captures)
    (plainColumn : column ≠ [] ∧ ∀ y ∈ column, isPerlSpace y = false)
    (plainNew : newName ≠ [] ∧ ∀ y ∈ newName, isPerlSpace y = false)
    (start : ∀ y r, definition = y :: r → isPerlSpace y = false) :
    matchAt (concat [.group 2 nonSpaces, spaces, .group 3 nonSpaces, spaces])
        ⟨before, column ++ ' ' :: (newName ++ ' ' :: definition), captures⟩ k =
      k ⟨' ' :: (newName.reverse ++ ' ' :: (column.reverse ++ before)), definition,
        Function.update (Function.update captures 2 (some column)) 3 (some newName)⟩ := by
  obtain ⟨⟨x, xs, rfl⟩, columnPlain⟩ := And.imp_left List.exists_cons_of_ne_nil plainColumn
  obtain ⟨⟨n, ns, rfl⟩, newPlain⟩ := And.imp_left List.exists_cons_of_ne_nil plainNew
  have stopsAtSpace : ∀ (rest : List Char) y rest', ' ' :: rest = y :: rest' → (!isPerlSpace y) = false := by
    rintro rest y rest' same
    rw [← (List.cons.inj same).1]
    rfl
  rw [matchAt_concat_cons, nonSpaces, matchAt_group_plus_run 2 _ before captures (by simpa using columnPlain)
    (stopsAtSpace _) fun c next => matchAt_spaces_of_nonSpace _ next]
  rw [matchAt_concat_cons, matchAt_spaces_single _ _ _ (by
    rintro y r same
    rw [← (List.cons.inj same).1]
    exact newPlain n List.mem_cons_self)]
  rw [matchAt_concat_cons, matchAt_group_plus_run 3 _ _ _ (by simpa using newPlain) (stopsAtSpace _)
    fun c next => matchAt_spaces_of_nonSpace _ next]
  rw [matchAt_concat_cons, matchAt_spaces_single _ _ _ start, matchAt_concat_nil]

/-- `([\S]+)$` on a name that ends the text: the name as group 2. -/
theorem matchAt_droppedName {column : List Char} (before : List Char) (captures)
    (plain : column ≠ [] ∧ ∀ y ∈ column, isPerlSpace y = false) :
    matchAt (concat [.group 2 nonSpaces, endText]) ⟨before, column, captures⟩ k =
      k ⟨column.reverse ++ before, [], Function.update captures 2 (some column)⟩ := by
  obtain ⟨⟨x, xs, rfl⟩, columnPlain⟩ := And.imp_left List.exists_cons_of_ne_nil plain
  simp only [matchAt_concat_cons, matchAt_concat_nil]
  exact matchAt_group_plus_end 2 before captures (by simpa using columnPlain)

end Patterns

/-! ### Each kind of clause -/

theorem isPerlSpace_of_isSpace {c : Char} (notSpace : isSpace c = false) : isPerlSpace c = false := by
  cases perl : isPerlSpace c with
  | false => rfl
  | true =>
    simp only [isPerlSpace, Bool.or_eq_true, beq_iff_eq] at perl
    rcases perl with (((rfl | rfl) | rfl) | rfl) | rfl <;> simp [isSpace] at notSpace

theorem plainName_parts {name : String} (plain : plainName name = true) :
    name.toList ≠ [] ∧ ∀ y ∈ name.toList, isPerlSpace y = false := by
  simp only [plainName, Bool.and_eq_true, Bool.not_eq_true', List.isEmpty_eq_false_iff, List.all_eq_true] at plain
  exact ⟨plain.1, fun y member => isPerlSpace_of_isSpace (by simpa using plain.2 y member)⟩

theorem trimmed_start {text : String} (trim : trimmed text = true) :
    ∀ y r, text.toList = y :: r → isPerlSpace y = false := by
  intro y r spelled
  simp only [trimmed, Bool.and_eq_true, Bool.not_eq_true', Option.any_eq_false, spelled] at trim
  exact isPerlSpace_of_isSpace (by simpa using trim.1.2 y rfl)

/-- A text that starts with a name starts with a rune that is no `\s`. -/
theorem start_of_plainName {name : String} (plain : plainName name = true) (rest : List Char) :
    ∀ y r, name.toList ++ rest = y :: r → isPerlSpace y = false := by
  obtain ⟨nonempty, inName⟩ := plainName_parts plain
  obtain ⟨c, more, spelled⟩ := List.exists_cons_of_ne_nil nonempty
  intro y r same
  rw [spelled, List.cons_append, List.cons.injEq] at same
  rw [← same.1]
  exact inName c (by simp [spelled])

theorem text_change_toList (column newName definition : String) :
    (AlterClause.change true column newName definition).text.toList =
      "CHANGE".toList ++ ' ' :: ("COLUMN".toList ++ ' ' ::
        (column.toList ++ ' ' :: (newName.toList ++ ' ' :: definition.toList))) ∧
    (AlterClause.change false column newName definition).text.toList =
      "CHANGE".toList ++ ' ' :: (column.toList ++ ' ' :: (newName.toList ++ ' ' :: definition.toList)) := by
  constructor <;> simp [AlterClause.text_change, AlterClause.columnWord]

theorem text_drop_toList (column : String) :
    (AlterClause.drop true column).text.toList = "DROP".toList ++ ' ' :: ("COLUMN".toList ++ ' ' :: column.toList) ∧
    (AlterClause.drop false column).text.toList = "DROP".toList ++ ' ' :: column.toList := by
  constructor <;> simp [AlterClause.text_drop, AlterClause.columnWord]

/-- A text that starts with `COLUMN` starts with a rune that is no `\s`. -/
theorem start_of_columnWord (rest : List Char) : ∀ y r, "COLUMN".toList ++ rest = y :: r → isPerlSpace y = false := by
  intro y r same
  rw [show "COLUMN".toList = 'C' :: "OLUMN".toList from rfl, List.cons_append, List.cons.injEq] at same
  rw [← same.1]
  rfl

/-- `renameColumnRegexp` on a rename clause matches from its start up to the definition,
with the two names as groups 2 and 3. -/
theorem searchFrom_renameColumnRegexp_change {withColumn : Bool} {column newName definition : String}
    (plainColumn : plainName column = true) (plainNew : plainName newName = true) (trim : trimmed definition = true)
    (notWord : (withColumn || column.toList.map foldCase != "column".toList) = true) :
    ∃ found, (group 0 renameColumnRegexp).searchFrom [] (AlterClause.change withColumn column newName definition).text.toList =
        some found ∧ found.rest = definition.toList ∧ submatch found.captures 2 = column.toList ∧
      submatch found.captures 3 = newName.toList := by
  have folds : "CHANGE".toList.map foldCase = "change".toList := by decide
  have names := fun before captures => matchAt_renamedNames (k := fun next => some { next with
      captures := Function.update next.captures 0 (some ((AlterClause.change withColumn column newName
        definition).text.toList.take ((AlterClause.change withColumn column newName definition).text.toList.length -
          next.rest.length))) }) before captures (plainName_parts plainColumn) (plainName_parts plainNew)
    (trimmed_start trim)
  have two : ∀ (column newName whole : List Char) (captures : Nat → Option (List Char)),
      submatch (Function.update (Function.update (Function.update captures 2 (some column)) 3 (some newName)) 0
        (some whole)) 2 = column := by
    intro column newName whole captures
    rw [submatch_update_of_ne _ (by decide), submatch_update_of_ne _ (by decide), submatch_update_self]
  have three : ∀ (newName whole : List Char) (captures : Nat → Option (List Char)),
      submatch (Function.update (Function.update captures 3 (some newName)) 0 (some whole)) 3 = newName := by
    intro newName whole captures
    rw [submatch_update_of_ne _ (by decide), submatch_update_self]
  -- with `COLUMN` the first alternative reads it; without, the name is not the word and the empty one is taken
  cases withColumn with
  | true =>
    refine ⟨?withWord, searchFrom_of_here ?hereWithWord, ?restWithWord, ?twoWithWord, ?threeWithWord⟩
    case hereWithWord =>
      rw [matchAt_group]
      unfold renameColumnRegexp
      conv => lhs; arg 2; rw [(text_change_toList column newName definition).1]
      rw [matchAt_keyword _ folds rfl rfl _ _ (start_of_columnWord _), matchAt_concat_cons,
        matchAt_columnOption_of_word _ _ _ (start_of_plainName plainColumn _), names]
      rfl
    case restWithWord => rfl
    case twoWithWord => exact two _ _ _ _
    case threeWithWord => exact three _ _ _
  | false =>
    have notColumn : column.toList.map foldCase ≠ "column".toList := by simpa using notWord
    refine ⟨?withoutWord, searchFrom_of_here ?hereWithoutWord, ?restWithoutWord, ?twoWithoutWord,
      ?threeWithoutWord⟩
    case hereWithoutWord =>
      rw [matchAt_group]
      unfold renameColumnRegexp
      conv => lhs; arg 2; rw [(text_change_toList column newName definition).2]
      rw [matchAt_keyword _ folds rfl rfl _ _ (start_of_plainName plainColumn _), matchAt_concat_cons,
        matchAt_columnOption_of_name _ _ (plainName_parts plainColumn).2 (.inr ⟨_, rfl⟩) fun _ => notColumn, names]
    case restWithoutWord => rfl
    case twoWithoutWord => exact two _ _ _ _
    case threeWithoutWord => exact three _ _ _

/-- `dropColumnRegexp` on a drop clause matches the whole clause, with the column as group 2. -/
theorem searchFrom_dropColumnRegexp_drop (withColumn : Bool) {column : String} (plainColumn : plainName column = true) :
    ∃ found, (group 0 dropColumnRegexp).searchFrom [] (AlterClause.drop withColumn column).text.toList = some found ∧
      found.rest = [] ∧ submatch found.captures 2 = column.toList := by
  have folds : "DROP".toList.map foldCase = "drop".toList := by decide
  have start : ∀ y r, column.toList = y :: r → isPerlSpace y = false := by
    simpa using start_of_plainName plainColumn []
  have two : ∀ (column whole : List Char) (captures : Nat → Option (List Char)),
      submatch (Function.update (Function.update captures 2 (some column)) 0 (some whole)) 2 = column := by
    intro column whole captures
    rw [submatch_update_of_ne _ (by decide), submatch_update_self]
  -- as for a rename, `COLUMN` is read by the first alternative where the clause has it
  cases withColumn with
  | true =>
    refine ⟨?withWord, searchFrom_of_here ?hereWithWord, ?restWithWord, ?twoWithWord⟩
    case hereWithWord =>
      rw [matchAt_group]
      unfold dropColumnRegexp
      conv => lhs; arg 2; rw [(text_drop_toList column).1]
      rw [matchAt_keyword _ folds rfl rfl _ _ (start_of_columnWord _), matchAt_concat_cons,
        matchAt_columnOption_of_word _ _ _ start, matchAt_droppedName _ _ (plainName_parts plainColumn)]
      rfl
    case restWithWord => rfl
    case twoWithWord => exact two _ _ _
  | false =>
    refine ⟨?withoutWord, searchFrom_of_here ?hereWithoutWord, ?restWithoutWord, ?twoWithoutWord⟩
    case hereWithoutWord =>
      rw [matchAt_group]
      unfold dropColumnRegexp
      conv => lhs; arg 2; rw [(text_drop_toList column).2]
      rw [matchAt_keyword _ folds rfl rfl _ _ start, matchAt_concat_cons,
        matchAt_columnOption_of_last _ _ (plainName_parts plainColumn).2,
        matchAt_droppedName _ _ (plainName_parts plainColumn)]
    case restWithoutWord => rfl
    case twoWithoutWord => exact two _ _ _

theorem not_infix_of_caselessIn {word text : String} (absent : caselessIn word text = false) :
    ¬ word.toList <:+: text.toList.map foldCase := by
  simpa [caselessIn] using absent

/-- `renameColumnRegexp` finds nothing in a text without `change`. -/
theorem findAll_renameColumnRegexp_of_absent {text : String} (absent : caselessIn "change" text = false) :
    renameColumnRegexp.findAll text.toList = [] := by
  apply findAll_of_none
  unfold renameColumnRegexp caseless wordBoundary
  exact searchFrom_assert_literal_of_absent _ _ _ _ (not_infix_of_caselessIn absent)

/-- `dropColumnRegexp` finds nothing in a text without `drop`. -/
theorem findAll_dropColumnRegexp_of_absent {text : String} (absent : caselessIn "drop" text = false) :
    dropColumnRegexp.findAll text.toList = [] := by
  apply findAll_of_none
  unfold dropColumnRegexp caseless wordBoundary
  exact searchFrom_assert_literal_of_absent _ _ _ _ (not_infix_of_caselessIn absent)

/-- On a rename clause whose definition has no `change`, `FindAllStringSubmatch` finds one
match, with the two names. -/
theorem findAll_renameColumnRegexp_change {withColumn : Bool} {column newName definition : String}
    (plainColumn : plainName column = true) (plainNew : plainName newName = true) (trim : trimmed definition = true)
    (notWord : (withColumn || column.toList.map foldCase != "column".toList) = true)
    (noChange : caselessIn "change" definition = false) :
    ∃ captures, renameColumnRegexp.findAll (AlterClause.change withColumn column newName definition).text.toList =
        [captures] ∧ submatch captures 2 = column.toList ∧ submatch captures 3 = newName.toList := by
  obtain ⟨found, first, rest, two, three⟩ := searchFrom_renameColumnRegexp_change plainColumn plainNew trim notWord
  refine ⟨found.captures, findAll_of_single first ?consumed ?after, two, three⟩
  case consumed =>
    rw [rest]
    simp [AlterClause.text_change]
    omega
  case after =>
    -- the search goes on in the definition, which has no `change`
    rw [rest]
    unfold renameColumnRegexp caseless wordBoundary
    exact searchFrom_assert_literal_of_absent _ _ _ _ (not_infix_of_caselessIn noChange)

/-- On a drop clause, `FindAllStringSubmatch` finds one match, with the column. -/
theorem findAll_dropColumnRegexp_drop (withColumn : Bool) {column : String} (plainColumn : plainName column = true) :
    ∃ captures, dropColumnRegexp.findAll (AlterClause.drop withColumn column).text.toList = [captures] ∧
      submatch captures 2 = column.toList := by
  obtain ⟨found, first, rest, two⟩ := searchFrom_dropColumnRegexp_drop withColumn plainColumn
  refine ⟨found.captures, findAll_of_single first ?consumed ?after, two⟩
  case consumed =>
    rw [rest]
    simp [AlterClause.text_drop]
  case after =>
    -- the match ends the text, and `drop` is not in the empty rest
    rw [rest]
    unfold dropColumnRegexp caseless wordBoundary
    exact searchFrom_assert_literal_of_absent _ _ _ _ (by simp)

/-! ### A clause's text -/

theorem trimmed_of_plainName {name : String} (plain : plainName name = true) : trimmed name = true := by
  simp only [plainName, Bool.and_eq_true, Bool.not_eq_true', List.isEmpty_eq_false_iff, List.all_eq_true] at plain
  obtain ⟨nonempty, inName⟩ := plain
  simp only [trimmed, Bool.and_eq_true, Bool.not_eq_true', List.isEmpty_eq_false_iff, Option.any_eq_false]
  refine ⟨⟨nonempty, fun c first => ?_⟩, fun c last => ?_⟩
  · simpa using inName c (List.mem_of_mem_head? first)
  · simpa using inName c (List.mem_of_mem_getLast? last)

/-- A text that opens with a rune that is no space, followed by trimmed text, is trimmed. -/
theorem trimmed_append {front back : String} (opens : front.toList.head?.any isSpace = false)
    (nonempty : front.toList ≠ []) (trim : trimmed back = true) : trimmed (front ++ back) = true := by
  simp only [trimmed, Bool.and_eq_true, Bool.not_eq_true', List.isEmpty_eq_false_iff] at trim ⊢
  obtain ⟨⟨backNonempty, -⟩, last⟩ := trim
  rw [String.toList_append, List.head?_append_of_ne_nil _ nonempty, List.getLast?_append_of_ne_nil _ backNonempty]
  exact ⟨⟨by simp [nonempty], opens⟩, last⟩

namespace AlterClause

/-- A readable clause has no `alter`, is left whole by the tokenizer and the sanitizer, and
is trimmed. -/
theorem readable_text {clause : AlterClause} (read : clause.readable = true) :
    caselessIn "alter" clause.text = false ∧ unbrokenClause clause.text = true ∧ trimmed clause.text = true := by
  cases clause with
  | change withColumn column newName definition =>
    simp only [readable, Bool.and_eq_true, Bool.not_eq_true'] at read
    obtain ⟨⟨⟨⟨⟨⟨⟨-, -⟩, trim⟩, -⟩, -⟩, -⟩, noAlter⟩, unbroken⟩ := read
    refine ⟨noAlter, unbroken, ?_⟩
    -- the clause opens with `CHANGE` and ends with the definition
    exact trimmed_append (by simp [isSpace]) (by simp) trim
  | drop withColumn column =>
    simp only [readable, Bool.and_eq_true, Bool.not_eq_true'] at read
    obtain ⟨⟨⟨plainColumn, -⟩, noAlter⟩, unbroken⟩ := read
    exact ⟨noAlter, unbroken, trimmed_append (by simp [isSpace]) (by simp) (trimmed_of_plainName plainColumn)⟩
  | other clause =>
    simp only [readable, Bool.and_eq_true, Bool.not_eq_true'] at read
    obtain ⟨⟨⟨⟨trim, -⟩, -⟩, noAlter⟩, unbroken⟩ := read
    exact ⟨noAlter, unbroken, trim⟩

theorem unquoted_text {clause : AlterClause} (read : clause.readable = true) : '\'' ∉ clause.text.toList := by
  have unbroken := (readable_text read).2.1
  simp only [unbrokenClause, Bool.and_eq_true, Bool.not_eq_true'] at unbroken
  simpa using unbroken.1

end AlterClause

/-- Readable clauses joined by `", "` hold no `alter`: the word has no comma or space, so it
would lie inside one clause. -/
theorem not_alterIn_intercalate {clauses : List AlterClause} (read : ∀ clause ∈ clauses, clause.readable = true) :
    ¬ AlterIn (", ".intercalate (clauses.map AlterClause.text)).toList := by
  have within {clause : AlterClause} (member : clause ∈ clauses) : ¬ AlterIn clause.text.toList :=
    not_infix_of_caselessIn (AlterClause.readable_text (read clause member)).1
  cases clauses with
  | nil => decide
  | cons first later =>
    unfold AlterIn
    rw [List.map_cons, intercalate_comma_toList]
    refine not_infix_map_intercalate (by decide) (by decide) _ fun part member => ?_
    rcases List.mem_cons.mp member with rfl | inLater
    · exact within List.mem_cons_self
    · obtain ⟨text, inTexts, rfl⟩ := List.mem_map.mp inLater
      obtain ⟨clause, inClauses, rfl⟩ := List.mem_map.mp inTexts
      -- the space that opens a later clause is no letter of the word
      rw [List.map_cons, ← List.nil_append (foldCase ' ' :: _), infix_append_cons_iff (by decide)]
      rintro (inNothing | inClause)
      · exact absurd (List.infix_nil.mp inNothing) (by decide)
      · exact within (List.mem_cons_of_mem first inClauses) inClause

/-! ### `ParseAlterStatement` on the clauses -/

namespace AlterTableParser

theorem parseAlterToken_alterTokens (this : AlterTableParser) (alterToken : String) :
    (this.parseAlterToken alterToken).alterTokens = this.alterTokens := by
  unfold parseAlterToken
  split_ifs <;>
    exact (foldl_keeps alterTokens (by intros; rfl) _ _).trans (foldl_keeps alterTokens (by intros; rfl) _ _)

/-- `parseAlterToken` on a readable clause: a rename sets the column's new name, a drop adds
the column, and any other clause changes neither. -/
theorem parseAlterToken_clause (this : AlterTableParser) {clause : AlterClause} (read : clause.readable = true) :
    (this.parseAlterToken clause.text).columnRenameMap = clause.renameInto this.columnRenameMap ∧
      (this.parseAlterToken clause.text).droppedColumns = clause.dropInto this.droppedColumns := by
  unfold parseAlterToken
  -- each loop runs over the matches its pattern finds in the clause, and the flags set neither map
  cases clause with
  | change withColumn column newName definition =>
    simp only [AlterClause.readable, Bool.and_eq_true, Bool.not_eq_true'] at read
    obtain ⟨⟨⟨⟨⟨⟨⟨plainColumn, plainNew⟩, trim⟩, notWord⟩, noChange⟩, noDrop⟩, -⟩, -⟩ := read
    obtain ⟨captures, found, two, three⟩ :=
      findAll_renameColumnRegexp_change plainColumn plainNew trim notWord noChange
    rw [found, findAll_dropColumnRegexp_of_absent noDrop]
    split_ifs <;> simp [AlterClause.renameInto, AlterClause.dropInto, submatchText, two, three]
  | drop withColumn column =>
    simp only [AlterClause.readable, Bool.and_eq_true, Bool.not_eq_true'] at read
    obtain ⟨⟨⟨plainColumn, noChange⟩, -⟩, -⟩ := read
    obtain ⟨captures, found, two⟩ := findAll_dropColumnRegexp_drop withColumn plainColumn
    rw [found, findAll_renameColumnRegexp_of_absent noChange]
    split_ifs <;> simp [AlterClause.renameInto, AlterClause.dropInto, submatchText, two]
  | other clause =>
    simp only [AlterClause.readable, Bool.and_eq_true, Bool.not_eq_true'] at read
    obtain ⟨⟨⟨⟨-, noChange⟩, noDrop⟩, -⟩, -⟩ := read
    rw [AlterClause.text_other, findAll_renameColumnRegexp_of_absent noChange, findAll_dropColumnRegexp_of_absent noDrop]
    split_ifs <;> exact ⟨rfl, rfl⟩

/-- The token loop over tokens that are readable clauses: the renames and the drops of the
clauses in turn, and each clause kept as a token. -/
theorem parseAlterTokens_clauses {clauses : List AlterClause} (read : ∀ clause ∈ clauses, clause.readable = true)
    (this : AlterTableParser)
    (tokens : tokenizeAlterStatement this.alterStatementOptions = clauses.map AlterClause.text) :
    this.parseAlterTokens.columnRenameMap = clauses.foldl AlterClause.renameInto this.columnRenameMap ∧
      this.parseAlterTokens.droppedColumns = clauses.foldl AlterClause.dropInto this.droppedColumns ∧
      this.parseAlterTokens.alterTokens = this.alterTokens ++ clauses.map AlterClause.text := by
  unfold parseAlterTokens
  rw [tokens]
  clear tokens
  -- the loop is read one clause at a time, from whatever parser the earlier clauses left
  induction clauses generalizing this with
  | nil => simp
  | cons clause later ih =>
    have clauseRead := read clause List.mem_cons_self
    have laterRead := ih fun other member => read other (List.mem_cons_of_mem clause member)
    obtain ⟨renamed, dropped⟩ := parseAlterToken_clause this clauseRead
    have kept := parseAlterToken_alterTokens this clause.text
    refine ⟨?renames, ?drops, ?texts⟩
    case renames =>
      rw [List.map_cons, List.foldl_cons, (laterRead _).1, List.foldl_cons]
      simp only [sanitizeQuotesFromAlterStatement_of_unquoted (AlterClause.unquoted_text clauseRead), renamed]
    case drops =>
      rw [List.map_cons, List.foldl_cons, (laterRead _).2.1, List.foldl_cons]
      simp only [sanitizeQuotesFromAlterStatement_of_unquoted (AlterClause.unquoted_text clauseRead), dropped]
    case texts =>
      rw [List.map_cons, List.foldl_cons, (laterRead _).2.2]
      simp [sanitizeQuotesFromAlterStatement_of_unquoted (AlterClause.unquoted_text clauseRead), kept]

/-- Options without `alter` pass the two explicit-table loops untouched. -/
theorem readExplicitTable_of_absent (this : AlterTableParser) (absent : ¬ AlterIn this.alterStatementOptions.toList) :
    readExplicitTable this = this := by
  delta readExplicitTable
  simp only [firstSubmatch_schemaTable_of_absent absent, firstSubmatch_table_of_absent absent]

end AlterTableParser

open AlterTableParser in
/-- Readable clauses joined by `", "` pass the explicit-table loops untouched and reach the
token loop as the clauses themselves. -/
theorem newParserFromAlterStatement_joined {clauses : List AlterClause}
    (read : ∀ clause ∈ clauses, clause.readable = true) :
    newParserFromAlterStatement (", ".intercalate (clauses.map AlterClause.text)) =
        parseAlterTokens { newAlterTableParser with
          alterStatementOptions := ", ".intercalate (clauses.map AlterClause.text) } ∧
      tokenizeAlterStatement (", ".intercalate (clauses.map AlterClause.text)) = clauses.map AlterClause.text := by
  refine ⟨?parsed, tokenizeAlterStatement_intercalate fun text member => ?whole⟩
  case parsed =>
    unfold newParserFromAlterStatement parseAlterStatement
    rw [readExplicitTable_of_absent _ (not_alterIn_intercalate read)]
  case whole =>
    obtain ⟨clause, inClauses, rfl⟩ := List.mem_map.mp member
    exact (AlterClause.readable_text (read clause inClauses)).2

end GhOst.Sql
