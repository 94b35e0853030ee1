import Mathlib.Data.List.Basic
import Mathlib.Data.List.Infix

/-! Go's `strings.FieldsFunc`, `strings.TrimSpace`, `strings.Repeat`, `strings.HasPrefix`
and `strings.Contains` over runes, and how `strings.Split` (Lean's `List.splitOn`) reads
back what `strings.Join` wrote.

`FieldsFunc` calls its predicate once per rune, left to right, so a predicate that is a
closure over mutable state is modelled as a function of that state which returns the new
state beside its answer. Two such predicates that give the same answers along a text give
the same fields; `fieldsFunc_of_simulation` states this for predicates related by a
simulation, on the texts where every step stays inside the simulated behaviour. -/

namespace Go.Strings

variable {α σ τ : Type}

/-- `unicode.IsSpace`: the Latin-1 spaces and the other runes of the `White_Space` table. -/
def isSpace (c : Char) : Bool :=
  let n := c.toNat
  n == 0x09 || n == 0x0A || n == 0x0B || n == 0x0C || n == 0x0D || n == 0x20 || n == 0x85 || n == 0xA0 ||
    n == 0x1680 || (0x2000 ≤ n && n ≤ 0x200A) || n == 0x2028 || n == 0x2029 || n == 0x202F ||
    n == 0x205F || n == 0x3000

/-- `strings.TrimSpace`. -/
def trimSpace (s : List Char) : List Char :=
  ((s.dropWhile isSpace).reverse.dropWhile isSpace).reverse

/-- The loop of `FieldsFunc` from a predicate state, with the field read so far (nearest
rune first): a selected rune ends the field, and an empty field is dropped. -/
def fieldsFuncFrom (f : σ → α → Bool × σ) : σ → List α → List α → List (List α)
  | _, field, [] => if field.isEmpty then [] else [field.reverse]
  | state, field, c :: rest =>
    if (f state c).1 then
      (if field.isEmpty then [] else [field.reverse]) ++ fieldsFuncFrom f (f state c).2 [] rest
    else fieldsFuncFrom f (f state c).2 (c :: field) rest

/-- `strings.FieldsFunc` with a predicate that starts in `state`: the maximal non-empty runs
of runes the predicate does not select. -/
def fieldsFunc (f : σ → α → Bool × σ) (state : σ) (s : List α) : List (List α) :=
  fieldsFuncFrom f state [] s

/-- `strings.Repeat`: `count` copies of `s`. A negative count panics, which is `none`. -/
def Repeat (s : List α) (count : Int) : Option (List α) :=
  if count < 0 then none else some (List.replicate count.toNat s).flatten

theorem Repeat_of_nonneg (s : List α) {count : Int} (nonneg : 0 ≤ count) :
    Repeat s count = some (List.replicate count.toNat s).flatten := by
  simp [Repeat, Int.not_lt.mpr nonneg]

theorem Repeat_of_neg (s : List α) {count : Int} (negative : count < 0) : Repeat s count = none := by
  simp [Repeat, negative]

/-- `strings.HasPrefix`. -/
def HasPrefix [BEq α] (s start : List α) : Bool :=
  start.isPrefixOf s

/-- `strings.Contains`. -/
def Contains [DecidableEq α] (s substr : List α) : Bool :=
  decide (substr <:+: s)

theorem HasPrefix_append [BEq α] [LawfulBEq α] (start rest : List α) : HasPrefix (start ++ rest) start = true := by
  simp [HasPrefix, List.isPrefixOf_iff_prefix]

/-- A word without the separator occurs in a text around one exactly where it occurs on
one side of it. -/
theorem infix_append_cons_iff {c : α} {word : List α} (absent : c ∉ word) {xs ys : List α} :
    word <:+: xs ++ c :: ys ↔ word <:+: xs ∨ word <:+: ys := by
  -- a part of the word cannot start at the separator
  have avoids : ∀ part, c ∉ part → part <+: c :: ys → part = [] := by
    intro part outside starts
    cases part with
    | nil => rfl
    | cons d more =>
      obtain ⟨rfl, -⟩ := List.cons_prefix_cons.mp starts
      exact absurd List.mem_cons_self outside
  constructor
  · intro found
    rcases List.infix_append_iff.mp found with inXs | inRest | ⟨front, back, rfl, ending, opening⟩
    · exact .inl inXs
    · rcases List.infix_cons_iff.mp inRest with starts | inYs
      · rw [avoids word absent starts]
        exact .inl List.nil_infix
      · exact .inr inYs
    · rw [avoids back (fun member => absent (List.mem_append_right front member)) opening, List.append_nil]
      exact .inl ending.isInfix
  · rintro (inXs | inYs)
    · exact List.infix_append_of_infix_left inXs
    · exact List.infix_append_of_infix_right (List.infix_cons inYs)

/-- A word without the separator that occurs in none of the parts occurs nowhere in the
parts joined by it. -/
theorem not_infix_map_intercalate {β : Type} {f : α → β} {c : α} {word : List β} (absent : f c ∉ word)
    (nonempty : word ≠ []) :
    ∀ parts : List (List α), (∀ part ∈ parts, ¬ word <:+: part.map f) → ¬ word <:+: ([c].intercalate parts).map f
  | [], _ => by simpa using nonempty
  | [part], outside => by simpa using outside part List.mem_cons_self
  | part :: next :: parts, outside => by
    rw [List.intercalate_cons_cons, List.map_append, List.map_append, List.append_assoc, List.map_singleton,
      List.singleton_append, infix_append_cons_iff absent]
    rintro (inPart | inLater)
    · exact outside part List.mem_cons_self inPart
    · exact not_infix_map_intercalate absent nonempty (next :: parts)
        (fun other member => outside other (List.mem_cons_of_mem part member)) inLater

theorem Contains_append_cons [DecidableEq α] {c : α} {word : List α} (absent : c ∉ word) (xs ys : List α) :
    Contains (xs ++ c :: ys) word = (Contains xs word || Contains ys word) := by
  simp [Contains, infix_append_cons_iff absent]

theorem Contains_nil [DecidableEq α] {word : List α} (nonempty : word ≠ []) : Contains [] word = false := by
  simp [Contains, nonempty]

theorem Contains_of_length_lt [DecidableEq α] {s substr : List α} (shorter : s.length < substr.length) :
    Contains s substr = false := by
  have outside : ¬ substr <:+: s := fun inside => Nat.not_le.mpr shorter inside.length_le
  simpa [Contains] using outside

/-- `strings.Split` undoes `strings.Join` when no part holds the one-rune separator. -/
theorem split_join {sep : String} {c : Char} (spelled : sep.toList = [c]) {parts : List String}
    (nonempty : parts ≠ []) (apart : ∀ part ∈ parts, c ∉ part.toList) :
    ((sep.intercalate parts).toList.splitOn c).map String.ofList = parts := by
  have separated : ∀ piece ∈ parts.map String.toList, c ∉ piece := by
    simpa using apart
  rw [String.toList_intercalate, spelled, List.splitOn_intercalate c separated (by simpa using nonempty)]
  simp [Function.comp_def]

/-- A piece `strings.Split` returns holds no separator, and only runes of its input. -/
theorem sep_not_mem_of_mem_splitOn [BEq α] [LawfulBEq α] {sep : α} {xs piece : List α}
    (member : piece ∈ xs.splitOn sep) : sep ∉ piece ∧ ∀ y ∈ piece, y ∈ xs := by
  induction xs generalizing piece with
  | nil =>
    rw [List.splitOn_nil, List.mem_singleton] at member
    simp [member]
  | cons x xs ih =>
    rw [List.splitOn_cons_eq_if_modifyHead] at member
    split at member
    · -- `x` is a separator: it ends a piece, and the next starts empty
      rcases List.mem_cons.mp member with rfl | later
      · simp
      · exact ⟨(ih later).1, fun y inPiece => List.mem_cons_of_mem x ((ih later).2 y inPiece)⟩
    · -- `x` opens the first piece of the rest
      rename_i kept
      obtain ⟨first, rest, split⟩ := List.exists_cons_of_ne_nil (List.splitOn_ne_nil sep xs)
      rw [split, List.modifyHead_cons] at member
      rcases List.mem_cons.mp member with rfl | later
      · have head := ih (split ▸ List.mem_cons_self)
        refine ⟨?_, ?_⟩
        · rintro (_ | ⟨_, inFirst⟩)
          · simp at kept
          · exact head.1 inFirst
        · rintro y (_ | ⟨_, inFirst⟩)
          · exact List.mem_cons_self
          · exact List.mem_cons_of_mem x (head.2 y inFirst)
      · have tail := ih (split ▸ List.mem_cons_of_mem first later)
        exact ⟨tail.1, fun y inPiece => List.mem_cons_of_mem x (tail.2 y inPiece)⟩

/-- Whether every rune of a text passes `allowed` in the state a predicate reaches before
it. -/
def allowedAlong (g : τ → α → Bool × τ) (allowed : τ → α → Bool) : τ → List α → Bool
  | _, [] => true
  | state, c :: rest => allowed state c && allowedAlong g allowed (g state c).2 rest

section Simulation

variable (f : σ → α → Bool × σ) (g : τ → α → Bool × τ) (allowed : τ → α → Bool) (related : σ → τ → Prop)

/-- A predicate simulated by another, step by step where `allowed` holds, finds the same
fields along a text whose every step is allowed. -/
theorem fieldsFuncFrom_of_simulation
    (simulates : ∀ x y c, related x y → allowed y c = true →
      (f x c).1 = (g y c).1 ∧ related (f x c).2 (g y c).2) :
    ∀ (s : List α) (x : σ) (y : τ) (field : List α), related x y → allowedAlong g allowed y s = true →
      fieldsFuncFrom f x field s = fieldsFuncFrom g y field s
  | [], _, _, _, _, _ => rfl
  | c :: rest, x, y, field, holds, along => by
    simp only [allowedAlong, Bool.and_eq_true] at along
    obtain ⟨same, next⟩ := simulates x y c holds along.1
    have later := fun field => fieldsFuncFrom_of_simulation simulates rest (f x c).2 (g y c).2 field next along.2
    simp only [fieldsFuncFrom, same, later]

theorem fieldsFunc_of_simulation
    (simulates : ∀ x y c, related x y → allowed y c = true →
      (f x c).1 = (g y c).1 ∧ related (f x c).2 (g y c).2)
    {x : σ} {y : τ} (start : related x y) {s : List α} (along : allowedAlong g allowed y s = true) :
    fieldsFunc f x s = fieldsFunc g y s :=
  fieldsFuncFrom_of_simulation f g allowed related simulates s x y [] start along

end Simulation

/-! ### Fields of a joined text -/

/-- The state a predicate reaches over a stretch of runes of which it selects none. -/
def readUnbroken (f : σ → α → Bool × σ) : σ → List α → Option σ
  | state, [] => some state
  | state, c :: rest => if (f state c).1 then none else readUnbroken f (f state c).2 rest

/-- A stretch the predicate reads without selecting a rune joins the field being read. -/
theorem fieldsFuncFrom_append_of_unbroken (f : σ → α → Bool × σ) :
    ∀ (stretch : List α) {state final : σ} (field rest : List α), readUnbroken f state stretch = some final →
      fieldsFuncFrom f state field (stretch ++ rest) = fieldsFuncFrom f final (stretch.reverse ++ field) rest
  | [], state, final, field, rest, read => by
    simp only [readUnbroken, Option.some.injEq] at read
    subst read
    rfl
  | c :: stretch, state, final, field, rest, read => by
    simp only [readUnbroken] at read
    split at read
    · cases read
    next unselected =>
      rw [List.cons_append, fieldsFuncFrom, if_neg unselected,
        fieldsFuncFrom_append_of_unbroken f stretch (c :: field) rest read]
      simp

/-- `FieldsFunc` splits a text joined at a rune it selects back into the parts, when it
reads each part from the same state, selecting none of its runes. -/
theorem fieldsFunc_intercalate (f : σ → α → Bool × σ) {state : σ} {sep : α}
    (separates : f state sep = (true, state)) :
    ∀ (parts : List (List α)), (∀ part ∈ parts, part ≠ [] ∧ readUnbroken f state part = some state) →
      fieldsFunc f state ([sep].intercalate parts) = parts
  | [], _ => rfl
  | [part], readable => by
    obtain ⟨nonempty, read⟩ := readable part List.mem_cons_self
    unfold fieldsFunc
    rw [List.intercalate_singleton, ← List.append_nil part, fieldsFuncFrom_append_of_unbroken f part [] [] read]
    simp [fieldsFuncFrom, nonempty]
  | part :: next :: parts, readable => by
    obtain ⟨nonempty, read⟩ := readable part List.mem_cons_self
    have later := fieldsFunc_intercalate f separates (next :: parts)
      fun other member => readable other (List.mem_cons_of_mem part member)
    unfold fieldsFunc at later ⊢
    rw [List.intercalate_cons_cons, List.append_assoc, fieldsFuncFrom_append_of_unbroken f part [] _ read]
    simp [fieldsFuncFrom, separates, nonempty, later]

end Go.Strings
