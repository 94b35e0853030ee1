import Mathlib.Data.List.Basic
import Mathlib.Algebra.Group.Nat.Defs

/-! Go's `strconv.Unquote` (Go 1.23) over characters: a Go string literal in
double quotes, single quotes or backquotes, read back to the text it denotes.
A `\x` or octal escape above `0x7f` denotes a raw byte, which no `String`
holds; the model rejects such a literal.

`ParseInt` and `Atoi` in base 10 on a 64-bit platform, which read back every
integer `%d` prints. -/

namespace Go.Strconv

/-- `unhex`: the value of one hexadecimal digit. -/
def unhex (c : Char) : Option Nat :=
  if '0' ≤ c ∧ c ≤ '9' then some (c.toNat - '0'.toNat)
  else if 'a' ≤ c ∧ c ≤ 'f' then some (c.toNat - 'a'.toNat + 10)
  else if 'A' ≤ c ∧ c ≤ 'F' then some (c.toNat - 'A'.toNat + 10)
  else none

/-- Read `count` hexadecimal digits onto `value`, most significant first. -/
def hexDigits : Nat → Nat → List Char → Option (Nat × List Char)
  | 0, value, rest => some (value, rest)
  | count + 1, value, c :: rest => (unhex c).bind fun x => hexDigits count (value * 16 + x) rest
  | _ + 1, _, [] => none

/-- The value of one octal digit. -/
def unoctal (c : Char) : Option Nat :=
  if '0' ≤ c ∧ c ≤ '7' then some (c.toNat - '0'.toNat) else none

/-- A `\x` or octal escape: a single byte, representable here only below `0x80`. -/
def byteEscape (value : Nat) (rest : List Char) : Option (Char × List Char) :=
  if value < 0x80 then some (Char.ofNat value, rest) else none

/-- A `\u` or `\U` escape: a valid rune, never a surrogate half. -/
def runeEscape (value : Nat) (rest : List Char) : Option (Char × List Char) :=
  if value.isValidChar then some (Char.ofNat value, rest) else none

/-- `UnquoteChar`: the first character or escape sequence of a literal's body. -/
def unquoteChar (input : List Char) (quote : Char) : Option (Char × List Char) :=
  match input with
  | [] => none
  | c :: rest =>
    if c = quote ∧ (quote = '\'' ∨ quote = '"') then none
    else if c ≠ '\\' then some (c, rest)
    else match rest with
      | [] => none
      | 'a' :: tail => some ('\x07', tail)
      | 'b' :: tail => some ('\x08', tail)
      | 'f' :: tail => some ('\x0c', tail)
      | 'n' :: tail => some ('\n', tail)
      | 'r' :: tail => some ('\r', tail)
      | 't' :: tail => some ('\t', tail)
      | 'v' :: tail => some ('\x0b', tail)
      | 'x' :: tail => (hexDigits 2 0 tail).bind fun (value, rest) => byteEscape value rest
      | 'u' :: tail => (hexDigits 4 0 tail).bind fun (value, rest) => runeEscape value rest
      | 'U' :: tail => (hexDigits 8 0 tail).bind fun (value, rest) => runeEscape value rest
      | '\\' :: tail => some ('\\', tail)
      | '\'' :: tail => if quote = '\'' then some ('\'', tail) else none
      | '"' :: tail => if quote = '"' then some ('"', tail) else none
      | d :: d₁ :: d₂ :: tail =>
        match unoctal d, unoctal d₁, unoctal d₂ with
        | some x, some y, some z =>
          let value := x * 64 + y * 8 + z
          if value > 255 then none else byteEscape value tail
        | _, _, _ => none
      | _ => none

/-- The escape-processing loop of `unquote`: characters up to the closing
quote; a single-quoted literal stops after one character. -/
def unquoteBody (quote : Char) : Nat → List Char → List Char → Option (List Char × List Char)
  | 0, _, _ => none
  | fuel + 1, output, input =>
    match input with
    | [] => some (output, [])
    | c :: rest =>
      if c = quote then some (output, c :: rest)
      else if c = '\n' then none
      else match unquoteChar (c :: rest) quote with
        | none => none
        | some (r, remaining) =>
          if quote = '\'' then some (output ++ [r], remaining)
          else unquoteBody quote fuel (output ++ [r]) remaining

/-- `unquote(in, true)`: the literal at the start of the input and the text after it. -/
def unquote (input : List Char) : Option (List Char × List Char) :=
  match input with
  | [] | [_] => none
  | quote :: body =>
    if quote ∉ body then none
    else
      -- `end` is the first occurrence of the quote after the opening one
      let inner := body.takeWhile (· ≠ quote)
      let after := body.drop (inner.length + 1)
      if quote = '`' then some (inner.filter (· ≠ '\r'), after)
      else if quote = '"' ∨ quote = '\'' then
        if '\\' ∉ inner ∧ '\n' ∉ inner ∧ (quote = '"' ∨ inner.length ≤ 1) then
          some (inner, after)
        else match unquoteBody quote (body.length + 1) [] body with
          | some (output, c :: rest) => if c = quote then some (output, rest) else none
          | _ => none
      else none

/-- `Unquote`: the whole input must be one literal. -/
def Unquote (s : String) : Option String :=
  match unquote s.toList with
  | some (output, []) => some (String.ofList output)
  | _ => none

/-- A text whose first character opens no Go literal is never a literal. -/
theorem Unquote_eq_none (s : String)
    (opening : ∀ c ∈ s.toList.head?, c ≠ '`' ∧ c ≠ '"' ∧ c ≠ '\'') : Unquote s = none := by
  unfold Unquote unquote
  match text : s.toList with
  | [] => simp
  | [_] => simp
  | quote :: next :: body =>
    simp only [text, List.head?_cons, Option.mem_def, Option.some.injEq, forall_eq'] at opening
    obtain ⟨notRaw, notDouble, notSingle⟩ := opening
    simp [notRaw, notDouble, notSingle]

example : Unquote "\"x\"" = some "x" := by decide

example : Unquote "`a\rb`" = some "ab" := by decide

example : Unquote "\"\\x3f\"" = some "?" := by decide

/-- The sign `ParseInt` picks off the front of its input. -/
def splitSign : List Char → Bool × List Char
  | '+' :: rest => (false, rest)
  | '-' :: rest => (true, rest)
  | s => (false, s)

/-- `ParseUint(s, 10, 64)` before its range check: one or more decimal digits, read most
significant first. In base 10 no underscore is admitted. -/
def parseDecimal (digits : List Char) : Option Nat :=
  if digits ≠ [] ∧ digits.all Char.isDigit then some (Nat.ofDigitChars 10 digits 0) else none

/-- `ParseInt(s, 10, 64)`: an optional sign, one or more decimal digits, and a value in
the range of `int64`. The callers modelled read no value when it fails. -/
def ParseInt (s : String) : Option Int64 :=
  let (neg, digits) := splitSign s.toList
  (parseDecimal digits).bind fun un =>
    if neg then if un ≤ 2 ^ 63 then some (-Int64.ofNat un) else none
    else if un < 2 ^ 63 then some (Int64.ofNat un) else none

/-- `Atoi` on a 64-bit `int`. Its fast path for inputs under 19 bytes accepts the same
texts, with the same values, as its fall-back `ParseInt(s, 10, 0)`. -/
def Atoi (s : String) : Option Int64 :=
  ParseInt s

theorem splitSign_of_isDigit {c : Char} (digit : c.isDigit) (rest : List Char) :
    splitSign (c :: rest) = (false, c :: rest) := by
  unfold splitSign
  split
  · simp_all
  · simp_all
  · rfl

theorem parseDecimal_toDigits (n : Nat) : parseDecimal (Nat.toDigits 10 n) = some n := by
  have digits : (Nat.toDigits 10 n).all Char.isDigit := by
    simpa using fun c member => Nat.isDigit_of_mem_toDigits (by decide) (by decide) member
  simp [parseDecimal, digits, Nat.ofDigitChars_ten_toDigits]

theorem splitSign_toDigits (n : Nat) : splitSign (Nat.toDigits 10 n) = (false, Nat.toDigits 10 n) := by
  obtain ⟨c, rest, spelled⟩ := List.exists_cons_of_ne_nil (Nat.toDigits_ne_nil (b := 10) (n := n))
  have digit : c.isDigit :=
    Nat.isDigit_of_mem_toDigits (by decide) (by decide) (spelled ▸ List.mem_cons_self)
  rw [spelled]
  exact splitSign_of_isDigit digit rest

/-- `ParseInt` reads back every `int64` that `%d` prints. -/
theorem ParseInt_toString (i : Int64) : ParseInt (toString i) = some i := by
  have lower := Int64.le_toInt i
  have upper := Int64.toInt_lt i
  show ParseInt (Int.repr i.toInt) = some i
  match value : i.toInt with
  | .ofNat m =>
    have fits : m < 2 ^ 63 := by simp only [value, Int.ofNat_eq_natCast] at upper; omega
    simp only [ParseInt, Int.repr, Nat.toList_repr, splitSign_toDigits, parseDecimal_toDigits]
    simp only [Option.bind_some, Bool.false_eq_true, ↓reduceIte, fits]
    rw [Option.some.injEq, ← Int64.toInt_inj, Int64.toInt_ofNat_of_lt fits, value]
    rfl
  | .negSucc m =>
    have fits : m + 1 ≤ 2 ^ 63 := by simp only [value, Int.negSucc_eq] at lower; omega
    have minus : "-".toList = ['-'] := rfl
    simp only [ParseInt, Int.repr, String.toList_append, Nat.toList_repr, minus]
    simp only [List.singleton_append, splitSign, parseDecimal_toDigits]
    simp only [Option.bind_some, ↓reduceIte, Nat.succ_eq_add_one, fits]
    rw [Option.some.injEq, ← Int64.toInt_inj, Int64.toInt_neg_ofNat_of_le fits, value]
    rfl

theorem ParseInt_of_parseDecimal {digits : List Char} {value : Nat} (parsed : parseDecimal digits = some value)
    (fits : value < 2 ^ 63) : ParseInt (String.ofList digits) = some (Int64.ofNat value) := by
  unfold parseDecimal at parsed
  split at parsed
  next numeral =>
    obtain ⟨c, rest, spelled⟩ := List.exists_cons_of_ne_nil numeral.1
    have digit : c.isDigit := List.all_eq_true.mp numeral.2 c (spelled ▸ List.mem_cons_self)
    have signless : splitSign digits = (false, digits) := spelled ▸ splitSign_of_isDigit digit rest
    have read : Nat.ofDigitChars 10 digits 0 = value := Option.some.inj parsed
    simp only [ParseInt, String.toList_ofList, signless]
    unfold parseDecimal
    simpa [numeral, read] using fits
  · cases parsed

theorem Atoi_toString (i : Int64) : Atoi (toString i) = some i :=
  ParseInt_toString i

/-- `%d` of an `int64` spells a sign and decimal digits. -/
theorem mem_toString_int64 {i : Int64} {c : Char} (member : c ∈ (toString i).toList) : c = '-' ∨ c.isDigit := by
  have digit : ∀ n : Nat, c ∈ (Nat.repr n).toList → c.isDigit := fun n inDigits =>
    Nat.isDigit_of_mem_toDigits (by decide) (by decide) (Nat.toList_repr ▸ inDigits)
  change c ∈ (Int.repr i.toInt).toList at member
  generalize i.toInt = value at member
  cases value with
  | ofNat m => exact Or.inr (digit m member)
  | negSucc m =>
    have minus : "-".toList = ['-'] := rfl
    simp only [Int.repr, String.toList_append, minus, List.singleton_append, List.mem_cons] at member
    rcases member with sign | inDigits
    · exact Or.inl sign
    · exact Or.inr (digit _ inDigits)

/-- `%d` of a non-negative `int64` is a non-empty run of decimal digits. -/
theorem toString_int64_of_nonneg {i : Int64} (nonneg : 0 ≤ i) :
    ∃ d ds, (toString i).toList = d :: ds ∧ ∀ c ∈ d :: ds, c.isDigit := by
  have natural : 0 ≤ i.toInt := by simpa using Int64.le_iff_toInt_le.mp nonneg
  change ∃ d ds, (Int.repr i.toInt).toList = d :: ds ∧ _
  match value : i.toInt with
  | .ofNat m =>
    obtain ⟨d, ds, spelled⟩ := List.exists_cons_of_ne_nil (Nat.toDigits_ne_nil (b := 10) (n := m))
    refine ⟨d, ds, by simp only [Int.repr, Nat.toList_repr, spelled], fun c member => ?_⟩
    exact Nat.isDigit_of_mem_toDigits (by decide) (by decide) (spelled ▸ member)
  | .negSucc m => simp [value] at natural

end Go.Strconv
