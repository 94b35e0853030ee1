import Mathlib.Data.List.Infix
import Mathlib.Data.List.Forall2

/-! The parts of MySQL's lexical structure that decide which object a generated
statement names: backtick-quoted identifiers (a doubled backtick stands for one
backtick), block comments (closed by the first `*/`), single-quoted string
literals with their backslash escapes, and the `LIKE` pattern language (`_`
matches one character, `%` any run, a backslash escapes the next character).
Character comparison is exact; the case folding of a collation is left out. -/

namespace GhOst.Mysql

/-- The body of a backtick-quoted identifier, after its opening backtick: the
name it denotes and the text after its closing backtick. -/
def quotedIdentifier : List Char → Option (List Char × List Char)
  | [] => none
  | '`' :: '`' :: rest => (quotedIdentifier rest).map fun (name, after) => ('`' :: name, after)
  | '`' :: rest => some ([], rest)
  | c :: rest => (quotedIdentifier rest).map fun (name, after) => (c :: name, after)

/-- A backtick-quoted identifier token at the start of the text. -/
def lexQuotedIdentifier : List Char → Option (List Char × List Char)
  | '`' :: rest => quotedIdentifier rest
  | _ => none

/-- The body of a block comment, after its opening `/*`: the text up to the
first `*/`, and the text after it. -/
def blockComment : List Char → Option (List Char × List Char)
  | [] => none
  | '*' :: '/' :: rest => some ([], rest)
  | c :: rest => (blockComment rest).map fun (body, after) => (c :: body, after)

/-- The escapes of a string literal: `\%` and `\_` keep their backslash, for `LIKE`. -/
def stringEscape : Char → List Char
  | '0' => ['\x00']
  | 'b' => ['\x08']
  | 'n' => ['\n']
  | 'r' => ['\r']
  | 't' => ['\t']
  | 'Z' => ['\x1a']
  | '%' => ['\\', '%']
  | '_' => ['\\', '_']
  | c => [c]

/-- The body of a single-quoted string literal, after its opening quote: the
string it denotes and the text after its closing quote. -/
def stringLiteral : List Char → Option (List Char × List Char)
  | [] => none
  | '\'' :: '\'' :: rest => (stringLiteral rest).map fun (value, after) => ('\'' :: value, after)
  | '\'' :: rest => some ([], rest)
  | '\\' :: c :: rest => (stringLiteral rest).map fun (value, after) => (stringEscape c ++ value, after)
  | c :: rest => (stringLiteral rest).map fun (value, after) => (c :: value, after)

/-- `text LIKE pattern`; a `%` lets the rest of the pattern match any suffix. -/
def likeMatches : List Char → List Char → Bool
  | [], text => text.isEmpty
  | '%' :: pattern, text => text.tails.any (likeMatches pattern)
  | '_' :: pattern, text =>
    match text with
    | [] => false
    | _ :: rest => likeMatches pattern rest
  | '\\' :: c :: pattern, text =>
    match text with
    | [] => false
    | d :: rest => c == d && likeMatches pattern rest
  | c :: pattern, text =>
    match text with
    | [] => false
    | d :: rest => c == d && likeMatches pattern rest

/-! ## Spelling a name -/

/-- A name written inside backticks, each of its backticks doubled. -/
def doubleBackticks : List Char → List Char
  | [] => []
  | '`' :: rest => '`' :: '`' :: doubleBackticks rest
  | c :: rest => c :: doubleBackticks rest

/-- An identifier lexed from a text spells its name with doubled backticks. -/
theorem quotedIdentifier_spelled {text name after : List Char}
    (lexed : quotedIdentifier text = some (name, after)) : text = doubleBackticks name ++ '`' :: after := by
  induction text using quotedIdentifier.induct generalizing name after with
  | case1 => simp [quotedIdentifier] at lexed
  | case2 rest ih =>
    simp only [quotedIdentifier, Option.map_eq_some_iff, Prod.mk.injEq, Prod.exists] at lexed
    obtain ⟨inner, after', found, rfl, rfl⟩ := lexed
    rw [ih found]
    rfl
  | case3 rest single =>
    rw [quotedIdentifier.eq_3 rest single, Option.some.injEq, Prod.mk.injEq] at lexed
    obtain ⟨rfl, rfl⟩ := lexed
    rfl
  | case4 c rest notDoubled other ih =>
    rw [quotedIdentifier.eq_4 c rest notDoubled other] at lexed
    simp only [Option.map_eq_some_iff, Prod.mk.injEq, Prod.exists] at lexed
    obtain ⟨inner, after', found, rfl, rfl⟩ := lexed
    rw [ih found]
    simp [doubleBackticks]

/-- A name with no backtick, closed by a backtick that no second backtick
follows, is lexed back as itself. -/
theorem quotedIdentifier_of_not_mem {name : List Char} (plain : '`' ∉ name) {rest : List Char}
    (next : rest.head? ≠ some '`') : quotedIdentifier (name ++ '`' :: rest) = some (name, rest) := by
  induction name with
  | nil =>
    refine quotedIdentifier.eq_3 rest ?_
    rintro after rfl
    exact next rfl
  | cons c cs ih =>
    have other : c ≠ '`' := fun same => plain (same ▸ List.mem_cons_self)
    have later := ih (fun member => plain (List.mem_cons_of_mem c member))
    rw [List.cons_append, quotedIdentifier.eq_4 c _ (fun _ same => absurd same other) other, later]
    rfl

/-- A comment body with no `*/` in it is closed by the `*/` after it. -/
theorem blockComment_of_not_infix {body : List Char} (open_ : ¬ ['*', '/'] <:+: body)
    (rest : List Char) : blockComment (body ++ '*' :: '/' :: rest) = some (body, rest) := by
  induction body with
  | nil => rfl
  | cons c cs ih =>
    have later : ¬ ['*', '/'] <:+: cs := fun inner => open_ (inner.trans (List.suffix_cons c cs).isInfix)
    have notClosing : ∀ after, c = '*' → cs ++ '*' :: '/' :: rest = '/' :: after → False := by
      intro after star slash
      cases cs with
      | nil => simp at slash
      | cons d ds =>
        simp only [List.cons_append, List.cons.injEq] at slash
        subst star
        exact open_ ⟨[], ds, by simp [slash.1]⟩
    rw [List.cons_append, blockComment.eq_3 c _ notClosing, ih later]
    rfl

/-- A value with no quote and no backslash, closed by a quote that no second
quote follows, is read back as itself. -/
theorem stringLiteral_of_plain {value : List Char} (unquoted : '\'' ∉ value) (unescaped : '\\' ∉ value)
    {rest : List Char} (next : rest.head? ≠ some '\'') :
    stringLiteral (value ++ '\'' :: rest) = some (value, rest) := by
  induction value with
  | nil =>
    refine stringLiteral.eq_3 rest ?_
    rintro after rfl
    exact next rfl
  | cons c cs ih =>
    have notQuote : c ≠ '\'' := fun same => unquoted (same ▸ List.mem_cons_self)
    have notSlash : c ≠ '\\' := fun same => unescaped (same ▸ List.mem_cons_self)
    have later := ih (fun member => unquoted (List.mem_cons_of_mem c member))
      (fun member => unescaped (List.mem_cons_of_mem c member))
    rw [List.cons_append, stringLiteral.eq_5 c _ (fun _ same => absurd same notQuote) notQuote
      (fun _ _ same => absurd same notSlash), later]
    rfl

/-- A pattern with no `%` and no backslash matches exactly the texts of its
length that agree with it wherever it does not hold `_`. -/
theorem likeMatches_iff {pattern : List Char} (noRun : '%' ∉ pattern) (unescaped : '\\' ∉ pattern) :
    ∀ {text : List Char}, likeMatches pattern text = true ↔
      List.Forall₂ (fun p t => p = '_' ∨ t = p) pattern text := by
  induction pattern with
  | nil => intro text; cases text <;> simp [likeMatches, List.forall₂_nil_left_iff]
  | cons p ps ih =>
    intro text
    have notRun : p ≠ '%' := fun same => noRun (same ▸ List.mem_cons_self)
    have notSlash : p ≠ '\\' := fun same => unescaped (same ▸ List.mem_cons_self)
    have later := @ih (fun member => noRun (List.mem_cons_of_mem p member))
      (fun member => unescaped (List.mem_cons_of_mem p member))
    by_cases any : p = '_'
    · subst any
      cases text with
      | nil => simp [likeMatches, List.forall₂_nil_right_iff]
      | cons t ts => simp [likeMatches, later]
    · cases text with
      | nil =>
        cases ps <;> simp [likeMatches, notSlash, List.forall₂_nil_right_iff]
      | cons t ts =>
        rw [likeMatches.eq_8 p ps t ts notRun any (fun _ _ same => absurd same notSlash)]
        simp only [Bool.and_eq_true, beq_iff_eq, later, List.forall₂_cons, any, false_or]
        exact and_congr_left fun _ => eq_comm

end GhOst.Mysql
