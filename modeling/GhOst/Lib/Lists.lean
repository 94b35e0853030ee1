import Mathlib.Data.List.Basic
import Mathlib.Data.List.Infix

/-! Facts about lists that the model's loops and comparisons rest on: a loop
in the `Except` monad succeeds exactly when every iteration does, and the
lexicographic order on tuples of one length is a disjunction over the first
position where they differ. -/

namespace Lib

universe u v w

section ExceptLoop

variable {ε : Type u} {α : Type v} {β : Type w}

@[simp] theorem ok_bind {γ δ : Type v} (a : γ) (f : γ → Except ε δ) :
    (Except.ok a >>= f) = f a := rfl

@[simp] theorem pure_eq_ok {γ : Type v} (a : γ) : (pure a : Except ε γ) = .ok a := rfl

@[simp] theorem error_bind {γ δ : Type v} (e : ε) (f : γ → Except ε δ) :
    (Except.error e >>= f) = .error e := rfl

/-- A loop whose every iteration succeeds returns every iteration's result. -/
theorem mapM_ok_of_forall {f : α → Except ε β} {g : α → β} (l : List α)
    (each : ∀ a ∈ l, f a = .ok (g a)) : l.mapM f = .ok (l.map g) := by
  induction l with
  | nil => rfl
  | cons head tail ih =>
    have first : f head = .ok (g head) := each head (by simp)
    have rest : tail.mapM f = .ok (tail.map g) := ih fun a member => each a (by simp [member])
    simp only [List.mapM_cons, first, rest]
    rfl

/-- A loop that fails on the inputs of a guard, for inputs that all pass it. -/
theorem mapM_guard_of_forall {p : α → Prop} [DecidablePred p] {fail : α → Except ε β} {g : α → β} (l : List α)
    (passes : ∀ a ∈ l, ¬ p a) : l.mapM (fun a => if p a then fail a else pure (g a)) = .ok (l.map g) :=
  mapM_ok_of_forall l fun a member => if_neg (passes a member)

/-- The same in `Option`. -/
theorem mapM_some_of_forall {f : α → Option β} {g : α → β} (l : List α)
    (each : ∀ a ∈ l, f a = some (g a)) : l.mapM f = some (l.map g) := by
  induction l with
  | nil => rfl
  | cons head tail ih =>
    have first : f head = some (g head) := each head (by simp)
    have rest : tail.mapM f = some (tail.map g) := ih fun a member => each a (by simp [member])
    simp only [List.mapM_cons, first, rest]
    rfl

/-- A loop whose every successful iteration returns `g` of its input returns the
map of `g`, when it succeeds. -/
theorem eq_map_of_mapM_ok {f : α → Except ε β} {g : α → β}
    (each : ∀ a b, f a = .ok b → b = g a) :
    ∀ (l : List α) {results : List β}, l.mapM f = .ok results → results = l.map g
  | [], results, done => by
    cases done
    rfl
  | head :: tail, results, done => by
    simp only [List.mapM_cons] at done
    cases first : f head with
    | error e => simp [first] at done
    | ok b =>
      cases rest : tail.mapM f with
      | error e => simp [first, rest] at done
      | ok bs =>
        simp only [first, rest, ok_bind] at done
        cases done
        simp [each head b first, eq_map_of_mapM_ok each tail rest]

/-- A loop with one failing iteration fails. -/
theorem mapM_error_of_exists {f : α → Except ε β} (l : List α)
    (failing : ∃ a ∈ l, ∃ e, f a = .error e) : ∃ e, l.mapM f = .error e := by
  induction l with
  | nil => simp at failing
  | cons head tail ih =>
    simp only [List.mapM_cons]
    cases first : f head with
    | error e => exact ⟨e, rfl⟩
    | ok b =>
      have later : ∃ a ∈ tail, ∃ e, f a = .error e := by
        obtain ⟨a, member, e, fails⟩ := failing
        rcases List.mem_cons.mp member with same | inTail
        · subst a
          rw [first] at fails
          cases fails
        · exact ⟨a, inTail, e, fails⟩
      obtain ⟨e, rest⟩ := ih later
      refine ⟨e, ?_⟩
      simp only [rest]
      rfl

/-- A loop that succeeds returns one result per iteration. -/
theorem length_of_mapM_ok {f : α → Except ε β} :
    ∀ (l : List α) {results : List β}, l.mapM f = .ok results → results.length = l.length
  | [], results, done => by
    cases done
    rfl
  | head :: tail, results, done => by
    simp only [List.mapM_cons] at done
    cases first : f head with
    | error e => simp [first] at done
    | ok b =>
      cases rest : tail.mapM f with
      | error e => simp [first, rest] at done
      | ok bs =>
        simp only [first, rest, ok_bind] at done
        cases done
        simp [length_of_mapM_ok tail rest]

end ExceptLoop

section Zip

variable {α : Type u} {β : Type v}

/-- Pairing a list with as many copies of one value tags every entry with it. -/
theorem zip_replicate_length (l : List α) (b : β) :
    l.zip (List.replicate l.length b) = l.map (·, b) := by
  induction l with
  | nil => rfl
  | cons head tail ih => simp [List.replicate_succ, ih]

/-- A pairing that reads only the right entry is a map of the right list, when
the left list is long enough. -/
theorem zipWith_eq_map_right {γ : Type w} (f : β → γ) :
    ∀ (l : List α) (m : List β), m.length ≤ l.length → List.zipWith (fun _ b => f b) l m = m.map f
  | _, [], _ => by simp
  | [], _ :: _, long => by simp at long
  | _ :: l, b :: m, long => by
    simp [zipWith_eq_map_right f l m (by simpa using long)]

/-- A pairing that reads only the left entry is a map of the left list, when the
right list is long enough. -/
theorem zipWith_eq_map_left {γ : Type w} (f : α → γ) :
    ∀ (l : List α) (m : List β), l.length ≤ m.length → List.zipWith (fun a _ => f a) l m = l.map f
  | [], _, _ => by simp
  | _ :: _, [], long => by simp at long
  | a :: l, _ :: m, long => by
    simp [zipWith_eq_map_left f l m (by simpa using long)]

/-- A name zipped with the values a function gives the names looks up its own value. -/
theorem lookup_zip_map [BEq α] [LawfulBEq α] (f : α → β) {names : List α} {name : α} (member : name ∈ names) :
    (names.zip (names.map f)).lookup name = some (f name) := by
  induction names with
  | nil => cases member
  | cons first rest ih =>
    by_cases same : name = first
    · subst same
      simp
    · have differ : (name == first) = false := beq_eq_false_iff_ne.mpr same
      simp [List.lookup_cons, differ, ih (List.mem_of_ne_of_mem same member)]

/-- Reading back, by its key, every entry of an association list whose keys are
distinct gives its values in order. -/
theorem map_lookup_zip {γ : Type w} [BEq β] [LawfulBEq β] (key : α → β) (d : γ) :
    ∀ {names : List α} {values : List γ}, (names.map key).Nodup → names.length = values.length →
      names.map (fun name => (((names.map key).zip values).lookup (key name)).getD d) = values
  | [], [], _, _ => rfl
  | [], _ :: _, _, len => by simp at len
  | _ :: _, [], _, len => by simp at len
  | name :: names, value :: values, distinct, len => by
    obtain ⟨fresh, rest⟩ := List.nodup_cons.mp distinct
    have skip : ∀ other ∈ names,
        ((((name :: names).map key).zip (value :: values)).lookup (key other)).getD d =
          (((names.map key).zip values).lookup (key other)).getD d := by
      intro other member
      have differ : (key other == key name) = false :=
        beq_eq_false_iff_ne.mpr fun same => fresh (same ▸ List.mem_map_of_mem member)
      simp [List.lookup_cons, differ]
    rw [List.map_cons, List.map_congr_left skip, map_lookup_zip key d rest (by simpa using len)]
    simp

theorem flatten_map_singleton {γ : Type w} (f : α → γ) (l : List α) :
    (l.map fun a => [f a]).flatten = l.map f := by
  induction l with
  | nil => rfl
  | cons head tail ih => simp [ih]

/-- An entry of a pairing is the pairing of an entry of each list. -/
theorem exists_of_mem_zipWith {γ : Type w} {f : α → β → γ} {c : γ} :
    ∀ {l : List α} {m : List β}, c ∈ List.zipWith f l m → ∃ a ∈ l, ∃ b ∈ m, c = f a b
  | [], _, member => by simp at member
  | _ :: _, [], member => by simp at member
  | a :: l, b :: m, member => by
    rcases List.mem_cons.mp member with first | later
    · exact ⟨a, List.mem_cons_self, b, List.mem_cons_self, first⟩
    · obtain ⟨a', inL, b', inM, same⟩ := exists_of_mem_zipWith later
      exact ⟨a', List.mem_cons_of_mem a inL, b', List.mem_cons_of_mem b inM, same⟩

/-- A list with an element satisfying `p` splits at the last such element. -/
theorem exists_split_last {α : Type u} {p : α → Prop} :
    ∀ {l : List α}, (∃ x ∈ l, p x) → ∃ before x after, l = before ++ x :: after ∧ p x ∧ ∀ y ∈ after, ¬ p y
  | [], found => by simp at found
  | x :: rest, found => by
    by_cases later : ∃ y ∈ rest, p y
    · obtain ⟨before, last, after, split, holds, none⟩ := exists_split_last later
      exact ⟨x :: before, last, after, by rw [split]; rfl, holds, none⟩
    · obtain ⟨y, member, holds⟩ := found
      rcases List.mem_cons.mp member with rfl | inRest
      · exact ⟨[], y, rest, rfl, holds, fun z inRest held => later ⟨z, inRest, held⟩⟩
      · exact absurd ⟨y, inRest, holds⟩ later

/-- A list with an element satisfying `p` splits at the first such element. -/
theorem exists_split_first {α : Type u} {p : α → Prop} :
    ∀ {l : List α}, (∃ x ∈ l, p x) → ∃ before x after, l = before ++ x :: after ∧ p x ∧ ∀ y ∈ before, ¬ p y
  | [], found => by simp at found
  | x :: rest, found => by
    by_cases here : p x
    · exact ⟨[], x, rest, rfl, here, by simp⟩
    · obtain ⟨y, member, holds⟩ := found
      have later : ∃ y ∈ rest, p y := by
        rcases List.mem_cons.mp member with rfl | inRest
        · exact absurd holds here
        · exact ⟨y, inRest, holds⟩
      obtain ⟨before, first, after, split, held, none⟩ := exists_split_first later
      refine ⟨x :: before, first, after, by rw [split]; rfl, held, ?_⟩
      intro z member'
      rcases List.mem_cons.mp member' with rfl | inBefore
      · exact here
      · exact none z inBefore

/-- The run of a predicate at the front of a list stops at the first element it rejects. -/
theorem mem_of_mem_takeWhile_append_cons {α : Type u} {p : α → Bool} {b y : α} (stop : p b = false) :
    ∀ {l rest : List α}, y ∈ (l ++ b :: rest).takeWhile p → y ∈ l
  | [], rest, member => by simp [List.takeWhile_cons_of_neg, stop] at member
  | x :: l, rest, member => by
    rw [List.cons_append, List.takeWhile_cons] at member
    split at member
    · rcases List.mem_cons.mp member with rfl | later
      · exact List.mem_cons_self
      · exact List.mem_cons_of_mem x (mem_of_mem_takeWhile_append_cons stop later)
    · simp at member

/-- The head of a non-empty list and what follows it is an element of the list. -/
theorem head_of_append {α : Type u} {p : α → Prop} {l : List α} (nonempty : l ≠ []) (all : ∀ x ∈ l, p x) :
    ∀ (rest : List α) y r, l ++ rest = y :: r → p y := by
  obtain ⟨x, xs, rfl⟩ := List.exists_cons_of_ne_nil nonempty
  rintro rest y r spelled
  rw [List.cons_append, List.cons.injEq] at spelled
  exact spelled.1 ▸ all x List.mem_cons_self

/-- What every step of a loop leaves unchanged, the loop leaves unchanged. -/
theorem foldl_keeps {α β γ : Type u} (part : α → γ) {f : α → β → α} (keeps : ∀ a b, part (f a b) = part a) :
    ∀ (l : List β) (init : α), part (l.foldl f init) = part init
  | [], _ => rfl
  | b :: l, init => by rw [List.foldl_cons, foldl_keeps part keeps l, keeps]

end Zip

section Decide

variable {α : Type u}

/-- A bounded statement over a concrete list, decided through the `List.all` that runs it:
`decide` on the bounded statement itself may pick an instance that ranges over the whole
type, as Batteries' instance for `∀ c : Char` does. -/
theorem forall_mem_of_all {p : α → Prop} [DecidablePred p] {l : List α} (all : (l.all fun x => decide (p x)) = true) :
    ∀ x ∈ l, p x :=
  fun x member => of_decide_eq_true (List.all_eq_true.mp all x member)

end Decide

section Intercalate

variable {α : Type u}

/-- What neither the separator nor any part holds, their join does not hold. -/
theorem not_mem_intercalate {c : α} {separator : List α} (apart : c ∉ separator) :
    ∀ {parts : List (List α)}, (∀ part ∈ parts, c ∉ part) → c ∉ separator.intercalate parts
  | [], _ => by simp
  | [part], each => by simpa using each part (by simp)
  | part :: next :: rest, each => by
    rw [List.intercalate_cons_cons]
    simp only [List.mem_append, not_or]
    refine ⟨⟨each part (by simp), apart⟩, not_mem_intercalate apart ?_⟩
    exact fun later member => each later (List.mem_cons_of_mem part member)

end Intercalate

section Infix

variable {α : Type u}

/-- A two-element word that occurs in neither part, nor across the joint, does
not occur in the concatenation. -/
theorem not_pair_infix_append {a b : α} {l₁ l₂ : List α} (left : ¬ [a, b] <:+: l₁)
    (right : ¬ [a, b] <:+: l₂) (joint : l₁.getLast? ≠ some a ∨ l₂.head? ≠ some b) :
    ¬ [a, b] <:+: l₁ ++ l₂ := by
  induction l₁ with
  | nil => simpa using right
  | cons x xs ih =>
    intro found
    rw [List.cons_append, List.infix_cons_iff] at found
    rcases found with start | later
    · -- the word starts at `x`: its second letter is the head of `xs ++ l₂`
      obtain ⟨rest, spelled⟩ := start
      simp only [List.cons_append, List.cons.injEq] at spelled
      obtain ⟨rfl, second⟩ := spelled
      cases xs with
      | nil =>
        simp only [List.nil_append] at second
        rcases joint with last | head
        · exact last rfl
        · exact head (by simp [← second])
      | cons y ys =>
        simp only [List.cons_append, List.cons.injEq] at second
        exact left ⟨[], ys, by simp [second.1]⟩
    · refine ih (fun inner => left (inner.trans (List.suffix_cons x xs).isInfix)) ?_ later
      cases xs with
      | nil => exact Or.inl (by simp)
      | cons y ys =>
        rcases joint with last | head
        · exact Or.inl (by simpa using last)
        · exact Or.inr head

end Infix

section Lexicographic

variable {α : Type u} [LT α]

/-- On tuples of one length, `xs < ys` in the lexicographic order exactly when,
at some position, the earlier entries agree and the entry of `xs` is smaller. -/
theorem lt_iff_exists_first_difference {xs ys : List α} (same : xs.length = ys.length) :
    xs < ys ↔ ∃ i, ∃ (inside : i < xs.length),
      (∀ j, (before : j < i) → xs[j] = ys[j]) ∧ xs[i] < ys[i] := by
  rw [List.lt_iff_exists]
  constructor
  · rintro (⟨_, shorter⟩ | ⟨i, inside, _, agree, smaller⟩)
    · omega
    · exact ⟨i, inside, agree, smaller⟩
  · rintro ⟨i, inside, agree, smaller⟩
    exact Or.inr ⟨i, inside, by omega, agree, smaller⟩

end Lexicographic

end Lib
