import GhOst.Sql.Builder
import GhOst.Lib.Lists
import Mathlib.Data.Nat.Basic
import Mathlib.Data.List.Forall2
import Mathlib.Order.Lattice

/-! The predicates the comparison builders spell, as abstract syntax: value
comparisons, equality conjunctions and a disjunction of guarded comparisons.
Each comparison holds one placeholder; a predicate's placeholders are bound
left to right to an argument list, and a row satisfies the bound predicate
when some disjunct has all its comparisons true. -/

namespace GhOst.Sql

/-- One `(column sign value)` comparison; `value` is a value expression. -/
structure Comparison where
  column : String
  sign : ValueComparisonSign
  value : String

def Comparison.render (comparison : Comparison) : String :=
  "(" ++ escapeName comparison.column ++ " " ++ comparison.sign.text ++ " " ++ comparison.value ++ ")"

/-- The conjunction `BuildEqualsComparison` spells. -/
def renderEqualities (comparisons : List Comparison) : String :=
  "(" ++ " and ".intercalate (comparisons.map Comparison.render) ++ ")"

/-- The equalities `column = value` of paired columns and values. -/
def equalityComparisons (columns values : List String) : List Comparison :=
  (columns.zip values).map fun (column, value) => ⟨column, .equals, value⟩

/-- One disjunct of a range predicate. -/
inductive Disjunct where
  | single (comparison : Comparison)
  | guarded (equalities : List Comparison) (comparison : Comparison)
  | equalities (comparisons : List Comparison)

namespace Disjunct

/-- The comparisons in the order the text spells them. -/
def comparisons : Disjunct → List Comparison
  | .single comparison => [comparison]
  | .guarded guards comparison => guards ++ [comparison]
  | .equalities conjuncts => conjuncts

def render : Disjunct → String
  | .single comparison => comparison.render
  | .guarded guards comparison =>
    "(" ++ renderEqualities guards ++ " AND " ++ comparison.render ++ ")"
  | .equalities conjuncts => renderEqualities conjuncts

end Disjunct

def renderPredicate (disjuncts : List Disjunct) : String :=
  "(" ++ " or ".intercalate (disjuncts.map Disjunct.render) ++ ")"

/-- The predicate's placeholders, left to right. -/
def placeholders (disjuncts : List Disjunct) : List Comparison :=
  disjuncts.flatMap Disjunct.comparisons

section Binding

variable {α : Type}

/-- Bind the placeholders left to right: each disjunct takes the next arguments. -/
def bindArguments : List Disjunct → List α → List (List (Comparison × α))
  | [], _ => []
  | disjunct :: rest, args =>
    disjunct.comparisons.zip args :: bindArguments rest (args.drop disjunct.comparisons.length)

/-- Binding the concatenation of per-disjunct argument lists of matching
lengths hands every disjunct its own list. -/
theorem bindArguments_flatten {disjuncts : List Disjunct} {argLists : List (List α)}
    (fits : List.Forall₂ (fun disjunct args => disjunct.comparisons.length = args.length)
      disjuncts argLists) :
    bindArguments disjuncts argLists.flatten =
      List.zipWith (fun disjunct args => disjunct.comparisons.zip args) disjuncts argLists := by
  induction fits with
  | nil => rfl
  | @cons disjunct args rest more first _ later =>
    simp only [bindArguments, List.flatten_cons, List.zipWith_cons_cons, first,
      List.drop_left, later]
    conv_lhs => rw [← List.append_nil disjunct.comparisons, List.zip_append first]
    simp

/-- Per-disjunct argument lists of matching lengths hold one argument per placeholder. -/
theorem placeholders_length_eq {disjuncts : List Disjunct} {argLists : List (List α)}
    (fits : List.Forall₂ (fun disjunct args => disjunct.comparisons.length = args.length)
      disjuncts argLists) :
    (placeholders disjuncts).length = argLists.flatten.length := by
  induction fits with
  | nil => rfl
  | cons first _ later => simp [placeholders, List.flatMap_cons, first, ← later]

end Binding

/-! ## The range predicate -/

/-- The `i`-th disjunct `BuildRangeComparison` spells: the comparison of the
`i`-th column, guarded by the equalities of the columns before it. -/
def rangeDisjunct (columns values : List String) (sign : ValueComparisonSign) (i : Nat) : Disjunct :=
  let comparison : Comparison := ⟨columns.getD i "", sign, values.getD i ""⟩
  if i > 0 then .guarded (equalityComparisons (columns.take i) (values.take i)) comparison
  else .single comparison

def rangePredicate (columns values : List String) (comparisonSign : ValueComparisonSign) :
    List Disjunct :=
  (List.range columns.length).map
      (rangeDisjunct columns values (splitComparisonSign comparisonSign).1) ++
    if (splitComparisonSign comparisonSign).2 then [.equalities (equalityComparisons columns values)]
    else []

/-- The arguments each disjunct consumes, in order. -/
def rangeArgumentLists {α : Type} (args : List α) (comparisonSign : ValueComparisonSign) :
    List (List α) :=
  (List.range args.length).map (fun i => args.take i ++ args[i]?.toList) ++
    if (splitComparisonSign comparisonSign).2 then [args] else []

/-! ## The builders spell these predicates -/

theorem buildValueComparison_ok {column value : String} (named : column ≠ "") (filled : value ≠ "")
    (sign : ValueComparisonSign) :
    buildValueComparison column value sign = .ok (Comparison.render ⟨column, sign, value⟩) := by
  simp [buildValueComparison, named, filled, Comparison.render]

/-- `BuildEqualsComparison` of named columns and filled values spells their equalities. -/
theorem buildEqualsComparison_ok {columns values : List String} (nonempty : columns ≠ [])
    (sameLength : values.length = columns.length) (named : ∀ column ∈ columns, column ≠ "")
    (filled : ∀ value ∈ values, value ≠ "") :
    buildEqualsComparison columns values =
      .ok (renderEqualities (equalityComparisons columns values)) := by
  have each : ∀ entry ∈ columns.zip values,
      (fun (entry : String × String) => buildValueComparison entry.1 entry.2 .equals) entry =
        .ok (Comparison.render ⟨entry.1, .equals, entry.2⟩) := by
    intro entry member
    exact buildValueComparison_ok (named _ (List.of_mem_zip member).1)
      (filled _ (List.of_mem_zip member).2) _
  have loop := Lib.mapM_ok_of_forall _ each
  have positive : columns.length ≠ 0 := by simpa using nonempty
  simp only [buildEqualsComparison, positive, sameLength, ne_eq, not_true_eq_false,
    if_false]
  simp [loop, renderEqualities, equalityComparisons, Function.comp_def]

/-- What `BuildValueComparison` returns, when it succeeds. -/
theorem buildValueComparison_eq {column value : String} {sign : ValueComparisonSign} {text : String}
    (built : buildValueComparison column value sign = .ok text) :
    text = Comparison.render ⟨column, sign, value⟩ := by
  unfold buildValueComparison at built
  split_ifs at built
  cases built
  rfl

/-- What `BuildEqualsComparison` returns, when it succeeds. -/
theorem buildEqualsComparison_eq {columns values : List String} {text : String}
    (built : buildEqualsComparison columns values = .ok text) :
    text = renderEqualities (equalityComparisons columns values) := by
  by_cases empty : columns.length = 0
  · simp only [buildEqualsComparison, empty, if_true] at built
    cases built
  by_cases mismatch : columns.length ≠ values.length
  · simp only [buildEqualsComparison, empty, mismatch, ne_eq, not_false_eq_true, if_true,
      if_false] at built
    cases built
  simp only [buildEqualsComparison, empty, mismatch, if_false] at built
  cases loop : (columns.zip values).mapM
      (fun (entry : String × String) => buildValueComparison entry.1 entry.2 .equals) with
  | error e => simp [loop] at built
  | ok comparisons =>
    have each : comparisons = (columns.zip values).map fun (entry : String × String) =>
        Comparison.render ⟨entry.1, .equals, entry.2⟩ :=
      Lib.eq_map_of_mapM_ok (fun _ _ found => buildValueComparison_eq found) _ loop
    simp only [loop, Lib.ok_bind, Lib.pure_eq_ok, Except.ok.injEq] at built
    rw [← built, each]
    simp [renderEqualities, equalityComparisons, Function.comp_def]

section RangeText

variable {α : Type} {columns values : List String} {args : List α}

/-- The inputs the range lemmas share: `n ≥ 1` named columns, filled value
expressions and arguments, all of one length. -/
structure RangeInput (columns values : List String) (args : List α) : Prop where
  nonempty : columns ≠ []
  valuesLength : values.length = columns.length
  argsLength : args.length = columns.length
  named : ∀ column ∈ columns, column ≠ ""
  filled : ∀ value ∈ values, value ≠ ""

theorem rangeComparisonTerm_ok (input : RangeInput columns values args) (sign : ValueComparisonSign)
    {i : Nat} (inside : i < columns.length) :
    rangeComparisonTerm columns values args sign i =
      .ok ((rangeDisjunct columns values sign i).render, args.take i ++ args[i]?.toList) := by
  have namedAt : columns.getD i "" ≠ "" := by
    simp only [List.getD_eq_getElem?_getD, List.getElem?_eq_getElem inside, Option.getD_some]
    exact input.named _ (List.getElem_mem inside)
  have filledAt : values.getD i "" ≠ "" := by
    have insideValues : i < values.length := by rw [input.valuesLength]; exact inside
    simp only [List.getD_eq_getElem?_getD, List.getElem?_eq_getElem insideValues, Option.getD_some]
    exact input.filled _ (List.getElem_mem _)
  have compared := buildValueComparison_ok namedAt filledAt sign
  rcases Nat.eq_zero_or_pos i with first | later
  · subst i
    simp only [rangeComparisonTerm, compared, rangeDisjunct, Disjunct.render]
    rfl
  · have guards : buildEqualsComparison (columns.take i) (values.take i) =
        .ok (renderEqualities (equalityComparisons (columns.take i) (values.take i))) := by
      apply buildEqualsComparison_ok
      · simp [input.nonempty, Nat.pos_iff_ne_zero.mp later]
      · simp [input.valuesLength]
      · exact fun column member => input.named column (List.mem_of_mem_take member)
      · exact fun value member => input.filled value (List.mem_of_mem_take member)
    simp only [rangeComparisonTerm, compared, guards, later, rangeDisjunct, Disjunct.render]
    rfl

/-- `BuildRangeComparison` of such inputs spells the range predicate, and its
exploded arguments are the per-disjunct argument lists in order. -/
theorem buildRangeComparison_ok (input : RangeInput columns values args)
    (comparisonSign : ValueComparisonSign) :
    buildRangeComparison columns values args comparisonSign =
      .ok (renderPredicate (rangePredicate columns values comparisonSign),
        (rangeArgumentLists args comparisonSign).flatten) := by
  have positive : columns.length ≠ 0 := by simpa using input.nonempty
  have loop := Lib.mapM_ok_of_forall (List.range columns.length)
    (fun i member => rangeComparisonTerm_ok input (splitComparisonSign comparisonSign).1
      (List.mem_range.mp member))
  have equalities := buildEqualsComparison_ok input.nonempty input.valuesLength input.named
    input.filled
  have sameArgs : args.length = columns.length := input.argsLength
  unfold buildRangeComparison
  simp only [positive, input.valuesLength, sameArgs, ne_eq, not_true_eq_false, if_false]
  rw [loop]
  cases split : splitComparisonSign comparisonSign with
  | mk sign includeEquals =>
    cases includeEquals
    · simp [renderPredicate, rangePredicate, rangeArgumentLists, split, sameArgs, Function.comp_def]
    · simp [equalities, renderPredicate, rangePredicate, rangeArgumentLists, split, sameArgs,
        Function.comp_def, Disjunct.render]

/-- An iteration over an empty column name or value expression fails. -/
theorem rangeComparisonTerm_error (sign : ValueComparisonSign) {i : Nat}
    (blank : columns.getD i "" = "" ∨ values.getD i "" = "") :
    ∃ e, rangeComparisonTerm columns values args sign i = .error e := by
  by_cases named : columns.getD i "" = ""
  · exact ⟨"Empty column in GetValueComparison", by
      simp only [rangeComparisonTerm, buildValueComparison, named, if_true, Lib.error_bind]⟩
  · have filled : values.getD i "" = "" := blank.resolve_left named
    exact ⟨"Empty value in GetValueComparison", by
      simp only [rangeComparisonTerm, buildValueComparison, named, filled, if_true, if_false,
        Lib.error_bind]⟩

/-- `BuildRangeComparison` fails exactly on no columns, mismatched lengths, or an
empty column name or value expression. -/
theorem buildRangeComparison_error_iff (columns values : List String) (args : List α)
    (comparisonSign : ValueComparisonSign) :
    (∃ e, buildRangeComparison columns values args comparisonSign = .error e) ↔
      columns = [] ∨ values.length ≠ columns.length ∨ args.length ≠ columns.length ∨
        "" ∈ columns ∨ "" ∈ values := by
  constructor
  · intro failed
    by_contra valid
    simp only [not_or, not_not] at valid
    obtain ⟨nonempty, valuesLength, argsLength, unnamed, unfilled⟩ := valid
    have input : RangeInput columns values args :=
      ⟨nonempty, valuesLength, argsLength, fun column member blank => unnamed (blank ▸ member),
        fun value member blank => unfilled (blank ▸ member)⟩
    obtain ⟨e, fails⟩ := failed
    rw [buildRangeComparison_ok input] at fails
    cases fails
  · intro invalid
    by_cases empty : columns.length = 0
    · rw [List.length_eq_zero_iff.mp empty]
      exact ⟨_, rfl⟩
    by_cases valuesMismatch : columns.length ≠ values.length
    · exact ⟨_, by
        simp only [buildRangeComparison, empty, valuesMismatch, ne_eq, not_false_eq_true, if_true,
          if_false]
        rfl⟩
    by_cases argsMismatch : columns.length ≠ args.length
    · exact ⟨_, by
        simp only [buildRangeComparison, empty, valuesMismatch, argsMismatch, ne_eq, not_false_eq_true,
          if_true, if_false]
        rfl⟩
    -- the lengths agree, so an empty name or value sits at some position of the loop
    have blankAt : ∃ i ∈ List.range columns.length, columns.getD i "" = "" ∨ values.getD i "" = "" := by
      rcases invalid with nil | mismatch | mismatch | unnamed | unfilled
      · simp [nil] at empty
      · omega
      · omega
      · obtain ⟨i, inside, blank⟩ := List.getElem_of_mem unnamed
        exact ⟨i, List.mem_range.mpr inside, Or.inl (by simp [inside, blank])⟩
      · obtain ⟨i, inside, blank⟩ := List.getElem_of_mem unfilled
        exact ⟨i, List.mem_range.mpr (by omega), Or.inr (by simp [inside, blank])⟩
    cases split : splitComparisonSign comparisonSign with
    | mk sign includeEquals =>
      obtain ⟨i, member, blank⟩ := blankAt
      obtain ⟨e, loopFails⟩ : ∃ e, (List.range columns.length).mapM
          (rangeComparisonTerm columns values args sign) = .error e :=
        Lib.mapM_error_of_exists _ ⟨i, member, rangeComparisonTerm_error sign blank⟩
      exact ⟨e, by simp [buildRangeComparison, empty, valuesMismatch, argsMismatch, split, loopFails]⟩

end RangeText

/-! ## The meaning of a bound predicate -/

section Semantics

variable {α V : Type} [LinearOrder V]

/-- The sign as a relation between a row's value and a bound value. -/
def ValueComparisonSign.holds : ValueComparisonSign → V → V → Prop
  | .lessThan, x, y => x < y
  | .lessThanOrEquals, x, y => x ≤ y
  | .equals, x, y => x = y
  | .greaterThanOrEquals, x, y => y ≤ x
  | .greaterThan, x, y => y < x
  | .notEquals, x, y => x ≠ y

/-- A comparison with its placeholder bound holds on a row; `denote` is the
value of a value expression whose placeholder is bound to an argument. -/
def EntryHolds (row : String → V) (denote : String → α → V) (entry : Comparison × α) : Prop :=
  entry.1.sign.holds (row entry.1.column) (denote entry.1.value entry.2)

/-- A row satisfies a predicate whose placeholders are bound left to right to
`args` when some disjunct has all its comparisons true. -/
def PredicateHolds (row : String → V) (denote : String → α → V) (disjuncts : List Disjunct)
    (args : List α) : Prop :=
  ∃ bound ∈ bindArguments disjuncts args, ∀ entry ∈ bound, EntryHolds row denote entry

/-- Tuples compared lexicographically by a sign. -/
def lexicographic : ValueComparisonSign → List V → List V → Prop
  | .lessThan, xs, ys => xs < ys
  | .lessThanOrEquals, xs, ys => xs < ys ∨ xs = ys
  | .equals, xs, ys => xs = ys
  | .greaterThanOrEquals, xs, ys => ys < xs ∨ xs = ys
  | .greaterThan, xs, ys => ys < xs
  | .notEquals, xs, ys => xs ≠ ys

variable (row : String → V) (denote : String → α → V)

/-- Bound equalities all hold exactly when every column equals its value. -/
theorem equalities_hold_iff : ∀ (columns values : List String) (args : List α)
    (valuesLength : values.length = columns.length) (argsLength : args.length = columns.length),
    ((∀ entry ∈ (equalityComparisons columns values).zip args, EntryHolds row denote entry) ↔
      ∀ j (inside : j < columns.length), row columns[j] = denote values[j] args[j])
  | [], _, _, _, _ => by simp [equalityComparisons]
  | column :: columns, value :: values, arg :: args, valuesLength, argsLength => by
    have rest := equalities_hold_iff columns values args (by simpa using valuesLength)
      (by simpa using argsLength)
    have unfolded : equalityComparisons (column :: columns) (value :: values) =
        ⟨column, .equals, value⟩ :: equalityComparisons columns values := rfl
    rw [unfolded, List.zip_cons_cons, List.forall_mem_cons, rest]
    constructor
    · rintro ⟨first, later⟩ j inside
      cases j with
      | zero => simpa [EntryHolds, ValueComparisonSign.holds] using first
      | succ j => simpa using later j (by simpa using inside)
    · intro all
      have first := all 0 (by simp)
      simp only [List.getElem_cons_zero] at first
      refine ⟨by simpa [EntryHolds, ValueComparisonSign.holds] using first, ?_⟩
      intro j inside
      have later := all (j + 1) (by simpa using inside)
      simpa only [List.getElem_cons_succ] using later
  | _ :: _, [], _, valuesLength, _ => by simp at valuesLength
  | _ :: _, _ :: _, [], _, argsLength => by simp at argsLength

theorem rangeDisjunct_comparisons (columns values : List String) (sign : ValueComparisonSign)
    (i : Nat) : (rangeDisjunct columns values sign i).comparisons =
      equalityComparisons (columns.take i) (values.take i) ++
        [⟨columns.getD i "", sign, values.getD i ""⟩] := by
  rcases Nat.eq_zero_or_pos i with first | later
  · subst i
    simp [rangeDisjunct, Disjunct.comparisons, equalityComparisons]
  · simp [rangeDisjunct, later, Disjunct.comparisons]

/-- The `i`-th disjunct, bound to its arguments, holds exactly when the columns
before `i` equal their values and the `i`-th column compares by the sign. -/
theorem rangeDisjunct_holds_iff {columns values : List String} {args : List α}
    (valuesLength : values.length = columns.length) (argsLength : args.length = columns.length)
    (sign : ValueComparisonSign) {i : Nat} (inside : i < columns.length) :
    (∀ entry ∈ (rangeDisjunct columns values sign i).comparisons.zip
        (args.take i ++ args[i]?.toList), EntryHolds row denote entry) ↔
      (∀ j (before : j < i), row columns[j] = denote values[j] args[j]) ∧
        sign.holds (row columns[i]) (denote values[i] args[i]) := by
  have insideArgs : i < args.length := by omega
  have guardsLength : (equalityComparisons (columns.take i) (values.take i)).length =
      (args.take i).length := by
    simp [equalityComparisons]
    omega
  rw [rangeDisjunct_comparisons, List.getElem?_eq_getElem insideArgs, Option.toList_some,
    List.zip_append guardsLength, List.forall_mem_append,
    equalities_hold_iff row denote _ _ _ (by simp; omega) (by simp; omega)]
  apply and_congr
  · constructor
    · intro guards j before
      have inTake : j < (columns.take i).length := by simp; omega
      simpa [List.getElem_take] using guards j inTake
    · intro guards j inTake
      have before : j < i := by simp at inTake; omega
      simpa [List.getElem_take] using guards j before
  · have insideValues : i < values.length := by omega
    simp [EntryHolds, List.getElem?_eq_getElem inside, List.getElem?_eq_getElem insideValues]

omit [LinearOrder V] in
/-- The disjuncts of a range predicate and the argument lists the builder
explodes pair up, one placeholder per argument. -/
theorem rangePredicate_fits {columns values : List String} {args : List α}
    (valuesLength : values.length = columns.length) (argsLength : args.length = columns.length)
    (comparisonSign : ValueComparisonSign) :
    List.Forall₂ (fun disjunct args => disjunct.comparisons.length = args.length)
      (rangePredicate columns values comparisonSign) (rangeArgumentLists args comparisonSign) := by
  have sameRange : List.range args.length = List.range columns.length := by rw [argsLength]
  unfold rangePredicate rangeArgumentLists
  rw [sameRange]
  apply List.rel_append
  · rw [List.forall₂_map_left_iff, List.forall₂_map_right_iff, List.forall₂_same]
    intro i member
    have inside : i < columns.length := List.mem_range.mp member
    rw [rangeDisjunct_comparisons, List.getElem?_eq_getElem (by omega)]
    simp [equalityComparisons]
    omega
  · cases (splitComparisonSign comparisonSign).2
    · exact List.Forall₂.nil
    · simp [Disjunct.comparisons, equalityComparisons]
      omega

/-- A range predicate bound to the builder's exploded arguments holds exactly
when some column is the first to compare strictly by the sign after equal
columns, or, for `<=` and `>=`, when every column equals its value. -/
theorem rangePredicate_holds_iff {columns values : List String} {args : List α}
    (valuesLength : values.length = columns.length) (argsLength : args.length = columns.length)
    (comparisonSign : ValueComparisonSign) :
    PredicateHolds row denote (rangePredicate columns values comparisonSign)
        (rangeArgumentLists args comparisonSign).flatten ↔
      (∃ i, ∃ (inside : i < columns.length),
        (∀ j (before : j < i), row columns[j] = denote values[j] args[j]) ∧
          (splitComparisonSign comparisonSign).1.holds (row columns[i]) (denote values[i] args[i])) ∨
      ((splitComparisonSign comparisonSign).2 = true ∧
        ∀ j (inside : j < columns.length), row columns[j] = denote values[j] args[j]) := by
  unfold PredicateHolds
  rw [bindArguments_flatten (rangePredicate_fits valuesLength argsLength comparisonSign)]
  have sameRange : List.range args.length = List.range columns.length := by rw [argsLength]
  unfold rangePredicate rangeArgumentLists
  rw [sameRange, List.zipWith_append (by simp), List.zipWith_map, List.zipWith_self]
  simp only [List.mem_append, List.mem_map, List.mem_range, or_and_right, exists_or]
  apply or_congr
  · constructor
    · rintro ⟨bound, ⟨i, inside, rfl⟩, holds⟩
      exact ⟨i, inside,
        (rangeDisjunct_holds_iff row denote valuesLength argsLength _ inside).mp holds⟩
    · rintro ⟨i, inside, holds⟩
      exact ⟨_, ⟨i, inside, rfl⟩,
        (rangeDisjunct_holds_iff row denote valuesLength argsLength _ inside).mpr holds⟩
  · cases (splitComparisonSign comparisonSign).2
    · simp
    · simp only [if_true, List.zipWith_cons_cons, List.zipWith_nil_left, List.mem_singleton,
        exists_eq_left, true_and]
      exact equalities_hold_iff row denote columns values args valuesLength argsLength

/-- For the four order signs, the disjunction over first differences that the
range predicate spells is the lexicographic comparison of equally long tuples. -/
theorem lexicographic_iff_first_difference {xs ys : List V} (same : xs.length = ys.length)
    {comparisonSign : ValueComparisonSign}
    (ordered : comparisonSign ∈ [.lessThan, .lessThanOrEquals, .greaterThan, .greaterThanOrEquals]) :
    lexicographic comparisonSign xs ys ↔
      (∃ i, ∃ (inside : i < xs.length), (∀ j (before : j < i), xs[j] = ys[j]) ∧
          (splitComparisonSign comparisonSign).1.holds xs[i] ys[i]) ∨
        ((splitComparisonSign comparisonSign).2 = true ∧
          ∀ j (inside : j < xs.length), xs[j] = ys[j]) := by
  have below := Lib.lt_iff_exists_first_difference same
  have above : ys < xs ↔ ∃ i, ∃ (inside : i < xs.length),
      (∀ j (before : j < i), xs[j] = ys[j]) ∧ ys[i] < xs[i] := by
    rw [Lib.lt_iff_exists_first_difference same.symm]
    constructor
    · rintro ⟨i, inside, agree, smaller⟩
      exact ⟨i, by omega, fun j before => (agree j before).symm, smaller⟩
    · rintro ⟨i, inside, agree, smaller⟩
      exact ⟨i, by omega, fun j before => (agree j before).symm, smaller⟩
  have equal : xs = ys ↔ ∀ j (inside : j < xs.length), xs[j] = ys[j] := by
    rw [List.ext_getElem_iff]
    constructor
    · rintro ⟨_, agree⟩ j inside
      exact agree j inside (by omega)
    · intro agree
      exact ⟨same, fun j inside _ => agree j inside⟩
  simp only [List.mem_cons, List.not_mem_nil, or_false] at ordered
  rcases ordered with rfl | rfl | rfl | rfl
  · simpa [lexicographic, splitComparisonSign, ValueComparisonSign.holds] using below
  · simp only [lexicographic, splitComparisonSign, ValueComparisonSign.holds, true_and]
    exact or_congr below equal
  · simpa [lexicographic, splitComparisonSign, ValueComparisonSign.holds] using above
  · simp only [lexicographic, splitComparisonSign, ValueComparisonSign.holds, true_and]
    exact or_congr above equal

end Semantics

end GhOst.Sql
