import Mathlib.Data.List.Basic
import Mathlib.Data.List.TakeWhile

/-! Regular expressions with leftmost-first submatches, the semantics Go's `regexp`
documents: of the matches that start earliest, the one a backtracking search finds first.
The matcher is that backtracking search, written with continuations: `matchAt r c k`
tries the ways `r` matches from the cursor `c` in priority order and returns the first
answer the continuation `k` accepts. -/

namespace Lib

/-- Parsed regular expressions over symbols `α`. A class is a predicate on one symbol; an
assertion is an empty-width test of the symbols before and after the cursor (`^`, `$`,
`\b`). -/
inductive Regex (α : Type) where
  | empty
  | char (accepts : α → Bool)
  | seq (first second : Regex α)
  | alt (preferred other : Regex α)
  | star (body : Regex α)
  | lazyStar (body : Regex α)
  | group (index : Nat) (body : Regex α)
  | assert (holds : Option α → Option α → Bool)

/-- A position in the subject: the text already passed, nearest symbol first, the text
still to read, and the submatches recorded so far. -/
structure Cursor (α : Type) where
  before : List α
  rest : List α
  captures : Nat → Option (List α)

namespace Regex

variable {α β : Type}

/-- Greedy repetition: one more repetition of `body` is tried before stopping. A repetition
must consume input, which restricts nothing for the bodies used here (single classes);
`fuel` bounds the repetitions, and `matchAt` starts it at the length of the input left. -/
def starAt (body : Cursor α → (Cursor α → Option β) → Option β) :
    Nat → Cursor α → (Cursor α → Option β) → Option β
  | 0, c, k => k c
  | fuel + 1, c, k =>
    (body c fun next => if next.rest.length < c.rest.length then starAt body fuel next k else none).orElse
      fun _ => k c

/-- Lazy repetition, `x*?`: stopping is tried before one more repetition of `body`. -/
def lazyStarAt (body : Cursor α → (Cursor α → Option β) → Option β) :
    Nat → Cursor α → (Cursor α → Option β) → Option β
  | 0, c, k => k c
  | fuel + 1, c, k =>
    (k c).orElse fun _ =>
      body c fun next => if next.rest.length < c.rest.length then lazyStarAt body fuel next k else none

/-- The backtracking matcher. A group records the text its body consumed. -/
def matchAt : Regex α → Cursor α → (Cursor α → Option β) → Option β
  | .empty, c, k => k c
  | .char accepts, c, k =>
    match c.rest with
    | a :: rest => if accepts a then k { c with before := a :: c.before, rest } else none
    | [] => none
  | .seq first second, c, k => matchAt first c fun next => matchAt second next k
  | .alt preferred other, c, k => (matchAt preferred c k).orElse fun _ => matchAt other c k
  | .star body, c, k => starAt (matchAt body) c.rest.length c k
  | .lazyStar body, c, k => lazyStarAt (matchAt body) c.rest.length c k
  | .group index body, c, k => matchAt body c fun next =>
    k { next with
      captures := Function.update next.captures index (some (c.rest.take (c.rest.length - next.rest.length))) }
  | .assert holds, c, k => if holds c.before.head? c.rest.head? then k c else none

/-- `x+`. -/
def plus (body : Regex α) : Regex α :=
  .seq body (.star body)

/-- A concatenation, left to right. -/
def concat : List (Regex α) → Regex α
  | [] => .empty
  | r :: rs => .seq r (concat rs)

/-- A literal word under a folding of symbols: each symbol of `word` matches the symbols
that fold to it (the identity for a case-sensitive literal). -/
def literal [DecidableEq α] (fold : α → α) (word : List α) : Regex α :=
  concat (word.map fun a => .char fun x => decide (fold x = a))

/-- `^` without the multi-line flag: the beginning of the text. -/
def beginText : Regex α :=
  .assert fun before _ => before.isNone

/-- `$` without the multi-line flag: the end of the text. -/
def endText : Regex α :=
  .assert fun _ after => after.isNone

/-- `\b`: one side of the cursor is a word symbol and the other is not. -/
def wordBoundary (isWord : α → Bool) : Regex α :=
  .assert fun before after => before.any isWord != after.any isWord

/-- The first match of `r` that starts at the earliest position of `text`, as the cursor
where it ends; `before` is the text preceding `text`. -/
def searchFrom (r : Regex α) : List α → List α → Option (Cursor α)
  | before, [] => r.matchAt ⟨before, [], fun _ => none⟩ some
  | before, a :: rest =>
    (r.matchAt ⟨before, a :: rest, fun _ => none⟩ some).orElse fun _ => r.searchFrom (a :: before) rest

/-- `FindSubmatch`: the submatches of the leftmost-first match, group 0 being the whole
match; `none` when nothing matches. -/
def findSubmatch (r : Regex α) (text : List α) : Option (Nat → Option (List α)) :=
  ((group 0 r).searchFrom [] text).map Cursor.captures

/-- `submatch[i]` of a match: the empty text for a group that took no part. -/
def submatch (captures : Nat → Option (List α)) (index : Nat) : List α :=
  (captures index).getD []

/-- The loop of `FindAllSubmatch` with no limit, from a search position given by the text
passed and the text left: the successive leftmost-first matches. The search resumes where a
match ends; after an empty match it moves one symbol on, and an empty match right where the
previous match ended is skipped. Positions are remaining lengths; `fuel` bounds the matches. -/
def findAllFrom (r : Regex α) : Nat → Option Nat → List α → List α → List (Nat → Option (List α))
  | 0, _, _, _ => []
  | fuel + 1, previousEnd, before, rest =>
    match (group 0 r).searchFrom before rest with
    | none => []
    | some found =>
      if found.rest.length = rest.length then
        (if previousEnd = some rest.length then [] else [found.captures]) ++
          match rest with
          | [] => []
          | a :: more => r.findAllFrom fuel (some rest.length) (a :: before) more
      else found.captures :: r.findAllFrom fuel (some found.rest.length) found.before found.rest

/-- `FindAllSubmatch(text, -1)`. -/
def findAll (r : Regex α) (text : List α) : List (Nat → Option (List α)) :=
  r.findAllFrom (text.length + 1) none [] text

/-- `MatchString`. -/
def matchString (r : Regex α) (text : List α) : Bool :=
  (r.findSubmatch text).isSome

/-- The loop of `ReplaceAllLiteral`, from the end of the last match and the search position,
both indices into `source`: the text up to each match, then the replacement, except for an
empty match right after the previous one. -/
def replaceAllFrom (r : Regex α) (replacement source : List α) : Nat → Nat → Nat → List α
  | 0, lastMatchEnd, _ => source.drop lastMatchEnd
  | fuel + 1, lastMatchEnd, searchPos =>
    match (group 0 r).searchFrom (source.take searchPos).reverse (source.drop searchPos) with
    | none => source.drop lastMatchEnd
    | some found =>
      let matchEnd := source.length - found.rest.length
      let matchStart := matchEnd - (submatch found.captures 0).length
      (source.drop lastMatchEnd).take (matchStart - lastMatchEnd) ++
        (if lastMatchEnd < matchEnd ∨ matchStart = 0 then replacement else []) ++
        if searchPos < source.length then
          r.replaceAllFrom replacement source fuel matchEnd (if matchEnd < searchPos + 1 then searchPos + 1 else matchEnd)
        else source.drop matchEnd

/-- `ReplaceAllString` with a replacement that has no `$`. -/
def replaceAll (r : Regex α) (source replacement : List α) : List α :=
  r.replaceAllFrom replacement source (source.length + 2) 0 0

/-! ### One equation per constructor -/

theorem starAt_zero (body : Cursor α → (Cursor α → Option β) → Option β) (c : Cursor α) (k : Cursor α → Option β) :
    starAt body 0 c k = k c := rfl

theorem starAt_succ (body : Cursor α → (Cursor α → Option β) → Option β) (fuel : Nat) (c : Cursor α)
    (k : Cursor α → Option β) :
    starAt body (fuel + 1) c k =
      (body c fun next => if next.rest.length < c.rest.length then starAt body fuel next k else none).orElse
        fun _ => k c := rfl

theorem lazyStarAt_zero (body : Cursor α → (Cursor α → Option β) → Option β) (c : Cursor α)
    (k : Cursor α → Option β) : lazyStarAt body 0 c k = k c := rfl

theorem lazyStarAt_succ (body : Cursor α → (Cursor α → Option β) → Option β) (fuel : Nat) (c : Cursor α)
    (k : Cursor α → Option β) :
    lazyStarAt body (fuel + 1) c k =
      (k c).orElse fun _ =>
        body c fun next => if next.rest.length < c.rest.length then lazyStarAt body fuel next k else none := rfl

@[simp] theorem matchAt_empty (c : Cursor α) (k : Cursor α → Option β) : matchAt .empty c k = k c := rfl

theorem matchAt_char_cons_eq_ite (accepts : α → Bool) (a : α) (before rest : List α) (captures)
    (k : Cursor α → Option β) :
    matchAt (.char accepts) ⟨before, a :: rest, captures⟩ k = if accepts a then k ⟨a :: before, rest, captures⟩ else none :=
  rfl

theorem matchAt_char_cons {accepts : α → Bool} {a : α} (accepted : accepts a = true)
    (before rest : List α) (captures) (k : Cursor α → Option β) :
    matchAt (.char accepts) ⟨before, a :: rest, captures⟩ k = k ⟨a :: before, rest, captures⟩ := by
  rw [matchAt_char_cons_eq_ite, if_pos accepted]

theorem matchAt_char_of_rejected {accepts : α → Bool} {c : Cursor α}
    (rejected : ∀ a rest, c.rest = a :: rest → accepts a = false) (k : Cursor α → Option β) :
    matchAt (.char accepts) c k = none := by
  rcases c with ⟨before, _ | ⟨a, rest⟩, captures⟩
  · rfl
  · simp [matchAt_char_cons_eq_ite, rejected a rest rfl]

theorem matchAt_char_cons_of_rejected {accepts : α → Bool} {a : α} (rejected : accepts a = false)
    (before rest : List α) (captures) (k : Cursor α → Option β) :
    matchAt (.char accepts) ⟨before, a :: rest, captures⟩ k = none := by
  simp [matchAt_char_cons_eq_ite, rejected]

theorem matchAt_char_nil {accepts : α → Bool} (before) (captures) (k : Cursor α → Option β) :
    matchAt (.char accepts) ⟨before, [], captures⟩ k = none := rfl

@[simp] theorem matchAt_seq (first second : Regex α) (c : Cursor α) (k : Cursor α → Option β) :
    matchAt (.seq first second) c k = matchAt first c fun next => matchAt second next k := rfl

theorem matchAt_alt (preferred other : Regex α) (c : Cursor α) (k : Cursor α → Option β) :
    matchAt (.alt preferred other) c k = (matchAt preferred c k).orElse fun _ => matchAt other c k := rfl

@[simp] theorem matchAt_group (index : Nat) (body : Regex α) (c : Cursor α) (k : Cursor α → Option β) :
    matchAt (.group index body) c k = matchAt body c fun next =>
      k { next with
        captures := Function.update next.captures index (some (c.rest.take (c.rest.length - next.rest.length))) } :=
  rfl

theorem matchAt_assert (holds : Option α → Option α → Bool) (c : Cursor α) (k : Cursor α → Option β) :
    matchAt (.assert holds) c k = if holds c.before.head? c.rest.head? then k c else none := rfl

@[simp] theorem matchAt_concat_nil (c : Cursor α) (k : Cursor α → Option β) :
    matchAt (concat []) c k = k c := rfl

@[simp] theorem matchAt_concat_cons (r : Regex α) (rs : List (Regex α)) (c : Cursor α) (k : Cursor α → Option β) :
    matchAt (concat (r :: rs)) c k = matchAt r c fun next => matchAt (concat rs) next k := rfl

theorem matchAt_plus (body : Regex α) (c : Cursor α) (k : Cursor α → Option β) :
    matchAt (plus body) c k = matchAt body c fun next => matchAt (.star body) next k := rfl

theorem matchAt_concat_append (first second : List (Regex α)) (c : Cursor α) (k : Cursor α → Option β) :
    matchAt (concat (first ++ second)) c k = matchAt (concat first) c fun next => matchAt (concat second) next k := by
  induction first generalizing c with
  | nil => rfl
  | cons r rs ih => simp [ih]

theorem matchAt_endText_of_nil (before) (captures) (k : Cursor α → Option β) :
    matchAt endText ⟨before, [], captures⟩ k = k ⟨before, [], captures⟩ := rfl

theorem matchAt_endText_cons (before) (a : α) (rest) (captures) (k : Cursor α → Option β) :
    matchAt endText ⟨before, a :: rest, captures⟩ k = none := rfl

theorem matchAt_beginText_of_nil (rest) (captures) (k : Cursor α → Option β) :
    matchAt beginText ⟨[], rest, captures⟩ k = k ⟨[], rest, captures⟩ := rfl

theorem matchAt_beginText_cons (b : α) (before rest) (captures) (k : Cursor α → Option β) :
    matchAt beginText ⟨b :: before, rest, captures⟩ k = none := rfl

/-! ### Matches come from the continuation -/

theorem starAt_silent {body : Cursor α → (Cursor α → Option β) → Option β}
    (silent : ∀ c, body c (fun _ => none) = none) : ∀ fuel c, starAt body fuel c (fun _ => none) = none
  | 0, _ => rfl
  | fuel + 1, c => by
    have later : (fun next : Cursor α =>
        if next.rest.length < c.rest.length then starAt body fuel next (fun _ => none) else none) = fun _ => none := by
      funext next
      split <;> simp [starAt_silent silent fuel next]
    simp [starAt_succ, later, silent c]

theorem lazyStarAt_silent {body : Cursor α → (Cursor α → Option β) → Option β}
    (silent : ∀ c, body c (fun _ => none) = none) : ∀ fuel c, lazyStarAt body fuel c (fun _ => none) = none
  | 0, _ => rfl
  | fuel + 1, c => by
    have later : (fun next : Cursor α =>
        if next.rest.length < c.rest.length then lazyStarAt body fuel next (fun _ => none) else none) = fun _ => none := by
      funext next
      split <;> simp [lazyStarAt_silent silent fuel next]
    simp [lazyStarAt_succ, later, silent c]

/-- A continuation that accepts nothing makes the whole match fail. -/
theorem matchAt_silent : ∀ (r : Regex α) (c : Cursor α), matchAt r c (fun _ => (none : Option β)) = none
  | .empty, _ => rfl
  | .char _, c => by
    rcases c with ⟨before, _ | ⟨a, rest⟩, captures⟩
    · exact matchAt_char_nil before captures _
    · simp [matchAt_char_cons_eq_ite]
  | .seq first second, c => by
    simp only [matchAt_seq, matchAt_silent second, matchAt_silent first]
  | .alt preferred other, c => by
    simp [matchAt_alt, matchAt_silent preferred, matchAt_silent other]
  | .star body, c => starAt_silent (matchAt_silent body) _ c
  | .lazyStar body, c => lazyStarAt_silent (matchAt_silent body) _ c
  | .group _ body, c => matchAt_silent body c
  | .assert _, c => by simp [matchAt_assert]

/-- Any fuel at least the length of the input left gives the same repetition. -/
theorem starAt_fuel {body : Cursor α → (Cursor α → Option β) → Option β}
    (silent : ∀ c, body c (fun _ => none) = none) (k : Cursor α → Option β) :
    ∀ (fuel other : Nat) (c : Cursor α), c.rest.length ≤ fuel → c.rest.length ≤ other →
      starAt body fuel c k = starAt body other c k
  | 0, 0, _, _, _ => rfl
  | 0, other + 1, c, exhausted, _ => by
    -- nothing is left, so no repetition can consume
    have none_shorter : (fun next : Cursor α =>
        if next.rest.length < c.rest.length then starAt body other next k else none) = fun _ => none := by
      funext next
      simp only [Nat.le_zero.mp exhausted, Nat.not_lt_zero, if_false]
    simp [starAt_zero, starAt_succ, none_shorter, silent c]
  | fuel + 1, 0, c, _, exhausted => by
    have none_shorter : (fun next : Cursor α =>
        if next.rest.length < c.rest.length then starAt body fuel next k else none) = fun _ => none := by
      funext next
      simp only [Nat.le_zero.mp exhausted, Nat.not_lt_zero, if_false]
    simp [starAt_zero, starAt_succ, none_shorter, silent c]
  | fuel + 1, other + 1, c, enough, enough' => by
    have same : (fun next : Cursor α =>
        if next.rest.length < c.rest.length then starAt body fuel next k else none) =
        fun next => if next.rest.length < c.rest.length then starAt body other next k else none := by
      funext next
      split
      · rw [starAt_fuel silent k fuel other next (by omega) (by omega)]
      · rfl
    simp only [starAt_succ, same]

/-- The star unfolds once: a repetition that consumes, then the star again; or stop. -/
theorem matchAt_star (body : Regex α) (c : Cursor α) (k : Cursor α → Option β) :
    matchAt (.star body) c k =
      (matchAt body c fun next => if next.rest.length < c.rest.length then matchAt (.star body) next k else none).orElse
        fun _ => k c := by
  show starAt (matchAt body) c.rest.length c k = _
  cases length : c.rest.length with
  | zero => simp [starAt_zero, matchAt_silent]
  | succ fuel =>
    have same : (fun next : Cursor α =>
        if next.rest.length < fuel + 1 then starAt (matchAt body) fuel next k else none) =
        fun next => if next.rest.length < fuel + 1 then matchAt (.star body) next k else none := by
      funext next
      split
      · exact starAt_fuel (matchAt_silent body) k fuel next.rest.length next (by omega) (Nat.le_refl _)
      · rfl
    simp only [starAt_succ, length, same]

/-- Any fuel at least the length of the input left gives the same lazy repetition. -/
theorem lazyStarAt_fuel {body : Cursor α → (Cursor α → Option β) → Option β}
    (silent : ∀ c, body c (fun _ => none) = none) (k : Cursor α → Option β) :
    ∀ (fuel other : Nat) (c : Cursor α), c.rest.length ≤ fuel → c.rest.length ≤ other →
      lazyStarAt body fuel c k = lazyStarAt body other c k
  | 0, 0, _, _, _ => rfl
  | 0, other + 1, c, exhausted, _ => by
    -- nothing is left, so no repetition can consume
    have none_shorter : (fun next : Cursor α =>
        if next.rest.length < c.rest.length then lazyStarAt body other next k else none) = fun _ => none := by
      funext next
      simp only [Nat.le_zero.mp exhausted, Nat.not_lt_zero, if_false]
    simp [lazyStarAt_zero, lazyStarAt_succ, none_shorter, silent c]
  | fuel + 1, 0, c, _, exhausted => by
    have none_shorter : (fun next : Cursor α =>
        if next.rest.length < c.rest.length then lazyStarAt body fuel next k else none) = fun _ => none := by
      funext next
      simp only [Nat.le_zero.mp exhausted, Nat.not_lt_zero, if_false]
    simp [lazyStarAt_zero, lazyStarAt_succ, none_shorter, silent c]
  | fuel + 1, other + 1, c, enough, enough' => by
    have same : (fun next : Cursor α =>
        if next.rest.length < c.rest.length then lazyStarAt body fuel next k else none) =
        fun next => if next.rest.length < c.rest.length then lazyStarAt body other next k else none := by
      funext next
      split
      · rw [lazyStarAt_fuel silent k fuel other next (by omega) (by omega)]
      · rfl
    simp only [lazyStarAt_succ, same]

/-- The lazy star unfolds once: stop; or a repetition that consumes, then the lazy star
again. -/
theorem matchAt_lazyStar (body : Regex α) (c : Cursor α) (k : Cursor α → Option β) :
    matchAt (.lazyStar body) c k =
      (k c).orElse fun _ =>
        matchAt body c fun next => if next.rest.length < c.rest.length then matchAt (.lazyStar body) next k else none := by
  show lazyStarAt (matchAt body) c.rest.length c k = _
  cases length : c.rest.length with
  | zero => simp [lazyStarAt_zero, matchAt_silent]
  | succ fuel =>
    have same : (fun next : Cursor α =>
        if next.rest.length < fuel + 1 then lazyStarAt (matchAt body) fuel next k else none) =
        fun next => if next.rest.length < fuel + 1 then matchAt (.lazyStar body) next k else none := by
      funext next
      split
      · exact lazyStarAt_fuel (matchAt_silent body) k fuel next.rest.length next (by omega) (Nat.le_refl _)
      · rfl
    simp only [lazyStarAt_succ, length, same]

/-! ### Repeating one class -/

section Class

variable {accepts : α → Bool} {k : Cursor α → Option β}

theorem star_char_cons {a : α} (accepted : accepts a = true) (before rest : List α) (captures) :
    matchAt (.star (.char accepts)) ⟨before, a :: rest, captures⟩ k =
      (matchAt (.star (.char accepts)) ⟨a :: before, rest, captures⟩ k).orElse
        fun _ => k ⟨before, a :: rest, captures⟩ := by
  rw [matchAt_star, matchAt_char_cons accepted]
  simp

/-- Where the next symbol is outside the class, the star repeats nothing. -/
theorem star_char_stop {c : Cursor α} (rejected : ∀ a rest, c.rest = a :: rest → accepts a = false) :
    matchAt (.star (.char accepts)) c k = k c := by
  rw [matchAt_star, matchAt_char_of_rejected rejected]
  rfl

/-- Greedy: when the star succeeds after consuming all of a run of the class, that is its
match. -/
theorem star_char_append_of_some {v : β} {captures} :
    ∀ (xs before rest : List α), (∀ x ∈ xs, accepts x = true) →
      matchAt (.star (.char accepts)) ⟨xs.reverse ++ before, rest, captures⟩ k = some v →
      matchAt (.star (.char accepts)) ⟨before, xs ++ rest, captures⟩ k = some v
  | [], _, _, _, found => found
  | x :: xs, before, rest, inClass, found => by
    have deeper : matchAt (.star (.char accepts)) ⟨x :: before, xs ++ rest, captures⟩ k = some v :=
      star_char_append_of_some xs (x :: before) rest (fun y member => inClass y (List.mem_cons_of_mem x member))
        (by simpa using found)
    rw [List.cons_append, star_char_cons (inClass x List.mem_cons_self), deeper]
    rfl

/-- A repetition of one class over a whole run of it, whose continuation accepts where the
run ends, gives that answer: the greedy path is tried first. -/
theorem matchAt_star_of_some {v : β} {xs rest before : List α} {captures}
    (inClass : ∀ x ∈ xs, accepts x = true) (stops : ∀ y rest', rest = y :: rest' → accepts y = false)
    (accepted : k ⟨xs.reverse ++ before, rest, captures⟩ = some v) :
    matchAt (.star (.char accepts)) ⟨before, xs ++ rest, captures⟩ k = some v := by
  apply star_char_append_of_some xs before rest inClass
  rw [star_char_stop stops]
  exact accepted

theorem matchAt_star_end_of_some {v : β} {xs before : List α} {captures}
    (inClass : ∀ x ∈ xs, accepts x = true) (accepted : k ⟨xs.reverse ++ before, [], captures⟩ = some v) :
    matchAt (.star (.char accepts)) ⟨before, xs, captures⟩ k = some v := by
  rw [← List.append_nil xs]
  exact matchAt_star_of_some inClass (by rintro _ _ ⟨⟩) (by simpa using accepted)

theorem matchAt_plus_of_some {v : β} {x : α} {xs rest before : List α} {captures}
    (inClass : ∀ y ∈ x :: xs, accepts y = true) (stops : ∀ y rest', rest = y :: rest' → accepts y = false)
    (accepted : k ⟨(x :: xs).reverse ++ before, rest, captures⟩ = some v) :
    matchAt (plus (char accepts)) ⟨before, x :: xs ++ rest, captures⟩ k = some v := by
  simp only [matchAt_plus, List.cons_append, matchAt_char_cons (inClass x List.mem_cons_self)]
  exact matchAt_star_of_some (fun y member => inClass y (List.mem_cons_of_mem x member)) stops
    (by simpa using accepted)

/-- Backtracking through a run of the class the continuation rejects everywhere ends where
the run ends. -/
theorem star_char_append_of_none {captures} :
    ∀ (xs before rest : List α), (∀ x ∈ xs, accepts x = true) →
      (∀ ys zs, xs = ys ++ zs → zs ≠ [] → k ⟨ys.reverse ++ before, zs ++ rest, captures⟩ = none) →
      matchAt (.star (.char accepts)) ⟨before, xs ++ rest, captures⟩ k =
        matchAt (.star (.char accepts)) ⟨xs.reverse ++ before, rest, captures⟩ k
  | [], _, _, _, _ => rfl
  | x :: xs, before, rest, inClass, rejects => by
    have here : k ⟨before, x :: (xs ++ rest), captures⟩ = none := by
      simpa using rejects [] (x :: xs) rfl (List.cons_ne_nil x xs)
    have deeper := star_char_append_of_none xs (x :: before) rest
      (fun y member => inClass y (List.mem_cons_of_mem x member))
      (fun ys zs split nonempty => by simpa using rejects (x :: ys) zs (by rw [split]; rfl) nonempty)
    rw [List.cons_append, star_char_cons (inClass x List.mem_cons_self), here, deeper]
    simp

/-- A star whose continuation accepts only the end of the text fails on a text with a
symbol outside the class. -/
theorem star_char_of_rejected (endOnly : ∀ c : Cursor α, c.rest ≠ [] → k c = none) :
    ∀ (text before : List α) (captures), (∃ z ∈ text, accepts z = false) →
      matchAt (.star (.char accepts)) ⟨before, text, captures⟩ k = none
  | [], _, _, outside => by simp at outside
  | x :: rest, before, captures, outside => by
    cases accepted : accepts x with
    | false =>
      rw [star_char_stop (by rintro _ _ ⟨⟩; exact accepted)]
      exact endOnly _ (List.cons_ne_nil x rest)
    | true =>
      have later : ∃ z ∈ rest, accepts z = false := by
        obtain ⟨z, member, rejected⟩ := outside
        rcases List.mem_cons.mp member with rfl | inRest
        · simp [accepted] at rejected
        · exact ⟨z, inRest, rejected⟩
      rw [star_char_cons accepted, star_char_of_rejected endOnly rest (x :: before) captures later,
        endOnly _ (List.cons_ne_nil x rest)]
      rfl

/-- A group records the run its body consumed. -/
theorem take_length_sub_append (x : α) (xs rest : List α) :
    (x :: (xs ++ rest)).take ((x :: (xs ++ rest)).length - rest.length) = x :: xs := by
  rw [← List.cons_append]
  exact List.take_left' (by simp only [List.length_cons, List.length_append]; omega)

theorem take_append_length_sub (xs rest : List α) : (xs ++ rest).take ((xs ++ rest).length - rest.length) = xs :=
  List.take_left' (by simp only [List.length_append]; omega)

/-- A repetition of one class over a whole run of it, before a continuation that rejects
every end strictly inside the run: the repetition takes the whole run. -/
theorem matchAt_plus_run {x : α} {xs : List α} (rest before : List α) (captures)
    (inClass : ∀ y ∈ x :: xs, accepts y = true) (stops : ∀ y rest', rest = y :: rest' → accepts y = false)
    (inside : ∀ ys zs, xs = ys ++ zs → zs ≠ [] → k ⟨ys.reverse ++ x :: before, zs ++ rest, captures⟩ = none) :
    matchAt (plus (char accepts)) ⟨before, x :: xs ++ rest, captures⟩ k =
      k ⟨(x :: xs).reverse ++ before, rest, captures⟩ := by
  simp only [matchAt_plus, List.cons_append, matchAt_char_cons (inClass x List.mem_cons_self)]
  -- the star backs off through the run, which the continuation rejects, to its end
  rw [star_char_append_of_none xs (x :: before) rest (fun y member => inClass y (List.mem_cons_of_mem x member))
    inside, star_char_stop stops]
  simp

/-- A single symbol of the class before one outside it. -/
theorem matchAt_plus_single {x : α} (rest before : List α) (captures) (accepted : accepts x = true)
    (stops : ∀ y rest', rest = y :: rest' → accepts y = false) :
    matchAt (plus (char accepts)) ⟨before, x :: rest, captures⟩ k = k ⟨x :: before, rest, captures⟩ := by
  simp only [matchAt_plus, matchAt_char_cons accepted]
  exact star_char_stop stops

/-- A group repeating one class over a whole run of it, before a continuation that rejects
every cursor whose next symbol is in the class: the group takes the whole run. -/
theorem matchAt_group_plus_run (index : Nat) {x : α} {xs : List α} (rest before : List α) (captures)
    (inClass : ∀ y ∈ x :: xs, accepts y = true) (stops : ∀ y rest', rest = y :: rest' → accepts y = false)
    (inside : ∀ c : Cursor α, (∃ y rest', c.rest = y :: rest' ∧ accepts y = true) → k c = none) :
    matchAt (group index (plus (char accepts))) ⟨before, x :: xs ++ rest, captures⟩ k =
      k ⟨(x :: xs).reverse ++ before, rest, Function.update captures index (some (x :: xs))⟩ := by
  rw [matchAt_group, matchAt_plus_run rest before captures inClass stops]
  · simp only [List.cons_append, take_length_sub_append]
  · intro ys zs split nonempty
    obtain ⟨z, zs', rfl⟩ := List.exists_cons_of_ne_nil nonempty
    exact inside _ ⟨z, zs' ++ rest, rfl, inClass z (by simp [split])⟩

/-- A repetition of one class ends inside the run of the class at the cursor: where the
continuation rejects every such end, the repetition fails. -/
theorem matchAt_plus_of_none (run rest before : List α) (captures)
    (inClass : ∀ y ∈ run, accepts y = true) (stops : ∀ y rest', rest = y :: rest' → accepts y = false)
    (rejects : ∀ ys zs, run = ys ++ zs → ys ≠ [] → k ⟨ys.reverse ++ before, zs ++ rest, captures⟩ = none) :
    matchAt (plus (char accepts)) ⟨before, run ++ rest, captures⟩ k = none := by
  cases run with
  | nil =>
    simp only [matchAt_plus, List.nil_append]
    exact matchAt_char_of_rejected stops _
  | cons x xs =>
    simp only [matchAt_plus, List.cons_append, matchAt_char_cons (inClass x List.mem_cons_self)]
    rw [star_char_append_of_none xs (x :: before) rest (fun y member => inClass y (List.mem_cons_of_mem x member))
      (fun ys zs split _ => by simpa using rejects (x :: ys) zs (by rw [split]; rfl) (List.cons_ne_nil x ys)),
      star_char_stop stops]
    simpa using rejects (x :: xs) [] (by simp) (List.cons_ne_nil x xs)

/-- The run of the class at the front of a text is in the class, and the symbol after it
is not. -/
theorem run_of_takeWhile (accepts : α → Bool) (text : List α) :
    (∀ y ∈ text.takeWhile accepts, accepts y = true) ∧
      ∀ y rest, text.dropWhile accepts = y :: rest → accepts y = false := by
  refine ⟨fun y member => List.mem_takeWhile_imp member, fun y rest spelled => ?_⟩
  have first := List.head?_dropWhile_not accepts text
  rw [spelled] at first
  exact first

/-- A repetition of one class before a continuation that accepts only where a symbol `d` of
the class is next fails when the run at the cursor holds no `d`. -/
theorem matchAt_plus_none_before {d : α} (dInClass : accepts d = true) (text before : List α) (captures)
    (absent : ∀ y ∈ text.takeWhile accepts, y ≠ d)
    (onlyBefore : ∀ c : Cursor α, (∀ rest, c.rest ≠ d :: rest) → k c = none) :
    matchAt (plus (char accepts)) ⟨before, text, captures⟩ k = none := by
  obtain ⟨inClass, stops⟩ := run_of_takeWhile accepts text
  rw [← List.takeWhile_append_dropWhile (p := accepts) (l := text)]
  refine matchAt_plus_of_none _ _ before captures inClass stops fun ys zs split _ => onlyBefore _ ?_
  intro rest next
  cases zs with
  -- the repetition ends after the run, where the next symbol is outside the class
  | nil => exact absurd dInClass (by simpa using stops d rest next)
  | cons z zs => exact absent z (by simp [split]) (List.cons.inj next).1

/-- The same for a repetition recorded as a group. -/
theorem matchAt_group_plus_none_before (index : Nat) {d : α} (dInClass : accepts d = true) (text before : List α)
    (captures) (absent : ∀ y ∈ text.takeWhile accepts, y ≠ d)
    (onlyBefore : ∀ c : Cursor α, (∀ rest, c.rest ≠ d :: rest) → k c = none) :
    matchAt (group index (plus (char accepts))) ⟨before, text, captures⟩ k = none := by
  rw [matchAt_group]
  exact matchAt_plus_none_before dInClass text before captures absent fun c elsewhere => onlyBefore _ elsewhere

/-- A repetition of one class over a run that holds one symbol `d` after its first, before
a continuation that accepts only where `d` is next: the repetition ends right before `d`,
however far the run goes on. -/
theorem matchAt_plus_before {x d : α} {xs after : List α} (before : List α) (captures)
    (inClass : ∀ y ∈ x :: xs, accepts y = true) (dInClass : accepts d = true) (notD : ∀ y ∈ xs, y ≠ d)
    (afterRun : ∀ y ∈ after.takeWhile accepts, y ≠ d)
    (onlyBefore : ∀ c : Cursor α, (∀ rest, c.rest ≠ d :: rest) → k c = none) :
    matchAt (plus (char accepts)) ⟨before, x :: xs ++ d :: after, captures⟩ k =
      k ⟨(x :: xs).reverse ++ before, d :: after, captures⟩ := by
  obtain ⟨runInClass, stops⟩ := run_of_takeWhile accepts after
  -- a cursor whose next symbol is not `d` is rejected
  have rejects : ∀ (zs rest before' : List α), (∀ y ∈ zs, y ≠ d) → zs ≠ [] →
      k ⟨before', zs ++ rest, captures⟩ = none := by
    rintro (_ | ⟨z, zs⟩) rest before' differs nonempty
    · exact absurd rfl nonempty
    · exact onlyBefore _ fun rest' next => differs z List.mem_cons_self (List.cons.inj next).1
  have atRunEnd : k ⟨(after.takeWhile accepts).reverse ++ d :: (xs.reverse ++ x :: before),
      after.dropWhile accepts, captures⟩ = none := by
    refine onlyBefore _ fun rest next => ?_
    exact absurd dInClass (by simpa using stops d rest next)
  simp only [matchAt_plus, List.cons_append, matchAt_char_cons (inClass x List.mem_cons_self)]
  -- the star runs past `d` to the end of the run, then backs off to `d`
  rw [star_char_append_of_none xs (x :: before) (d :: after)
      (fun y member => inClass y (List.mem_cons_of_mem x member))
      (fun ys zs split nonempty => rejects zs _ _ (fun y member => notD y (by simp [split, member])) nonempty),
    star_char_cons dInClass]
  rw [← List.takeWhile_append_dropWhile (p := accepts) (l := after)]
  rw [star_char_append_of_none _ _ _ runInClass
      (fun ys zs split nonempty => rejects zs _ _ (fun y member => afterRun y (by simp [split, member])) nonempty),
    star_char_stop stops, atRunEnd]
  simp

/-- The same for a repetition recorded as a group. -/
theorem matchAt_group_plus_before (index : Nat) {x d : α} {xs after : List α} (before : List α) (captures)
    (inClass : ∀ y ∈ x :: xs, accepts y = true) (dInClass : accepts d = true) (notD : ∀ y ∈ xs, y ≠ d)
    (afterRun : ∀ y ∈ after.takeWhile accepts, y ≠ d)
    (onlyBefore : ∀ c : Cursor α, (∀ rest, c.rest ≠ d :: rest) → k c = none) :
    matchAt (group index (plus (char accepts))) ⟨before, x :: xs ++ d :: after, captures⟩ k =
      k ⟨(x :: xs).reverse ++ before, d :: after, Function.update captures index (some (x :: xs))⟩ := by
  rw [matchAt_group]
  refine (matchAt_plus_before before captures inClass dInClass notD afterRun ?_).trans ?_
  · exact fun c elsewhere => onlyBefore _ elsewhere
  · simp only [List.cons_append, take_length_sub_append]

/-- `(x*$)` over a text of the class: the group takes all of it. -/
theorem matchAt_group_star_end (index : Nat) (text before : List α) (captures)
    (inClass : ∀ y ∈ text, accepts y = true) :
    matchAt (group index (concat [star (char accepts), endText])) ⟨before, text, captures⟩ k =
      k ⟨text.reverse ++ before, [], Function.update captures index (some text)⟩ := by
  rw [matchAt_group, matchAt_concat_cons, ← List.append_nil text]
  -- the star backs off from the end of the text, where `$` fails inside it
  rw [star_char_append_of_none text before [] inClass]
  · simp [star_char_stop, matchAt_endText_of_nil]
  · intro ys zs _ nonempty
    obtain ⟨z, zs', rfl⟩ := List.exists_cons_of_ne_nil nonempty
    simp [matchAt_endText_cons]

/-- `(x*)d$` over a text of the class that ends in `d`, itself in the class: the group takes
all but the last symbol. -/
theorem matchAt_group_star_last (index : Nat) {last : α → Bool} {d : α} (isLast : last d = true)
    (dInClass : accepts d = true) (text before : List α) (captures)
    (inClass : ∀ y ∈ text, accepts y = true) :
    matchAt (group index (star (char accepts))) ⟨before, text ++ [d], captures⟩
        (fun next => matchAt (char last) next fun next => matchAt endText next k) =
      k ⟨d :: (text.reverse ++ before), [], Function.update captures index (some text)⟩ := by
  rw [matchAt_group, star_char_append_of_none text before [d] inClass]
  · rw [star_char_cons dInClass, star_char_stop (by simp)]
    simp [matchAt_char_cons isLast, matchAt_char_nil, matchAt_endText_of_nil]
  · -- one symbol after any shorter repetition the last symbol is still ahead, where `$` fails
    intro ys zs _ nonempty
    obtain ⟨z, zs', rfl⟩ := List.exists_cons_of_ne_nil nonempty
    cases accepted : last z with
    | false => exact matchAt_char_of_rejected (by rintro _ _ ⟨⟩; exact accepted) _
    | true =>
      obtain ⟨w, ws, ahead⟩ :=
        List.exists_cons_of_ne_nil (List.append_ne_nil_of_right_ne_nil zs' (List.cons_ne_nil d []))
      simp only [List.cons_append]
      rw [matchAt_char_cons accepted, ahead, matchAt_endText_cons]

/-- A group repeating one class fails where the next symbol is outside the class. -/
theorem matchAt_group_plus_of_rejected (index : Nat) {c : Cursor α}
    (rejected : ∀ y rest, c.rest = y :: rest → accepts y = false) :
    matchAt (group index (plus (char accepts))) c k = none := by
  simp only [matchAt_group, matchAt_plus]
  exact matchAt_char_of_rejected rejected _

/-- `(x+)$` over a text of the class: the group takes all of it. -/
theorem matchAt_group_plus_end (index : Nat) {x : α} {xs : List α} (before : List α) (captures)
    (inClass : ∀ y ∈ x :: xs, accepts y = true) :
    matchAt (group index (plus (char accepts))) ⟨before, x :: xs, captures⟩ (fun next => matchAt endText next k) =
      k ⟨(x :: xs).reverse ++ before, [], Function.update captures index (some (x :: xs))⟩ := by
  have whole := matchAt_group_plus_run (k := fun next => matchAt endText next k) index [] before captures
    inClass (by simp) (fun c ⟨y, rest', next, _⟩ => by
      rcases c with ⟨before', rest'', captures'⟩
      simp only at next
      subst next
      exact matchAt_endText_cons _ _ _ _ _)
  simpa [matchAt_endText_of_nil] using whole

/-- `(x+)$` fails on a text with a symbol outside the class. -/
theorem matchAt_group_plus_end_of_rejected (index : Nat) {text : List α} (before : List α) (captures)
    (outside : ∃ z ∈ text, accepts z = false) :
    matchAt (group index (plus (char accepts))) ⟨before, text, captures⟩ (fun next => matchAt endText next k) = none := by
  cases text with
  | nil => simp at outside
  | cons x rest =>
    cases accepted : accepts x with
    | false =>
      simp only [matchAt_group, matchAt_plus]
      exact matchAt_char_of_rejected (by rintro _ _ ⟨⟩; exact accepted) _
    | true =>
      have later : ∃ z ∈ rest, accepts z = false := by
        obtain ⟨z, member, rejected⟩ := outside
        rcases List.mem_cons.mp member with rfl | inRest
        · simp [accepted] at rejected
        · exact ⟨z, inRest, rejected⟩
      simp only [matchAt_group, matchAt_plus, matchAt_char_cons accepted]
      refine star_char_of_rejected ?_ rest (x :: before) captures later
      intro c nonempty
      obtain ⟨y, ys, next⟩ := List.exists_cons_of_ne_nil nonempty
      rcases c with ⟨before', rest', captures'⟩
      simp only at next
      subst next
      exact matchAt_endText_cons _ _ _ _ _

end Class

/-! ### Literals -/

theorem matchAt_literal_cons [DecidableEq α] (fold : α → α) (a : α) (word : List α) (c : Cursor α)
    (k : Cursor α → Option β) :
    matchAt (literal fold (a :: word)) c k =
      matchAt (.char fun x => decide (fold x = a)) c fun next => matchAt (literal fold word) next k := rfl

theorem matchAt_literal_append [DecidableEq α] (fold : α → α) {k : Cursor α → Option β} :
    ∀ (xs before rest : List α) (captures),
      matchAt (literal fold (xs.map fold)) ⟨before, xs ++ rest, captures⟩ k = k ⟨xs.reverse ++ before, rest, captures⟩
  | [], _, _, _ => rfl
  | x :: xs, before, rest, captures => by
    simp only [List.map_cons, matchAt_literal_cons, List.cons_append]
    rw [matchAt_char_cons (by simp)]
    simpa using matchAt_literal_append fold xs (x :: before) rest captures

theorem matchAt_literal_of_not_prefix [DecidableEq α] (fold : α → α) {k : Cursor α → Option β} :
    ∀ (word text before : List α) (captures), ¬ word <+: text.map fold →
      matchAt (literal fold word) ⟨before, text, captures⟩ k = none
  | [], _, _, _, differs => absurd (List.nil_prefix) differs
  | a :: word, [], _, _, _ => by
    simp only [matchAt_literal_cons]
    exact matchAt_char_of_rejected (by simp) _
  | a :: word, x :: text, before, captures, differs => by
    simp only [matchAt_literal_cons]
    by_cases same : fold x = a
    · rw [matchAt_char_cons (by simp [same])]
      have rest_differs : ¬ word <+: text.map fold := by
        intro prefixed
        exact differs (by simpa [same] using prefixed)
      exact matchAt_literal_of_not_prefix fold word text (x :: before) captures rest_differs
    · exact matchAt_char_of_rejected (by simp [same]) _

/-! ### Submatches -/

@[simp] theorem submatch_update_self (captures : Nat → Option (List α)) (index : Nat) (text : List α) :
    submatch (Function.update captures index (some text)) index = text := by
  simp [submatch]

theorem submatch_update_of_ne (captures : Nat → Option (List α)) {index other : Nat} (different : other ≠ index)
    (text : Option (List α)) : submatch (Function.update captures index text) other = submatch captures other := by
  simp [submatch, Function.update_of_ne different]

/-! ### Leftmost search -/

theorem searchFrom_nil (r : Regex α) (before : List α) :
    r.searchFrom before [] = r.matchAt ⟨before, [], fun _ => none⟩ some := rfl

theorem searchFrom_cons (r : Regex α) (before : List α) (a : α) (rest : List α) :
    r.searchFrom before (a :: rest) =
      (r.matchAt ⟨before, a :: rest, fun _ => none⟩ some).orElse fun _ => r.searchFrom (a :: before) rest := rfl

/-- A match at the first position is the leftmost one. -/
theorem searchFrom_of_here {r : Regex α} {before text : List α} {found : Cursor α}
    (here : r.matchAt ⟨before, text, fun _ => none⟩ some = some found) :
    r.searchFrom before text = some found := by
  cases text with
  | nil => exact here
  | cons a rest => simp [searchFrom_cons, here]

/-- Where no match starts at the first position, the search goes on from the next. -/
theorem searchFrom_cons_of_none {r : Regex α} {before rest : List α} {a : α}
    (here : r.matchAt ⟨before, a :: rest, fun _ => none⟩ some = none) :
    r.searchFrom before (a :: rest) = r.searchFrom (a :: before) rest := by
  simp [searchFrom_cons, here]

/-- Where no match starts after the first position, the search is the attempt there. -/
theorem searchFrom_of_later_none {r : Regex α} :
    ∀ (before text : List α),
      (∀ ys zs, text = ys ++ zs → ys ≠ [] → r.matchAt ⟨ys.reverse ++ before, zs, fun _ => none⟩ some = none) →
      r.searchFrom before text = r.matchAt ⟨before, text, fun _ => none⟩ some
  | _, [], _ => rfl
  | before, a :: rest, later => by
    have next := searchFrom_of_later_none (r := r) (a :: before) rest
      (fun ys zs split nonempty => by simpa using later (a :: ys) zs (by rw [split]; rfl) (List.cons_ne_nil a ys))
    have there : r.matchAt ⟨a :: before, rest, fun _ => none⟩ some = none := by
      simpa using later [a] rest rfl (List.cons_ne_nil a [])
    rw [searchFrom_cons, next, there]
    cases r.matchAt ⟨before, a :: rest, fun _ => none⟩ some <;> rfl

/-- A search finds nothing where no position matches. -/
theorem searchFrom_eq_none {r : Regex α} {before text : List α}
    (nowhere : ∀ ys zs, text = ys ++ zs → r.matchAt ⟨ys.reverse ++ before, zs, fun _ => none⟩ some = none) :
    r.searchFrom before text = none := by
  rw [searchFrom_of_later_none before text (fun ys zs split _ => nowhere ys zs split)]
  simpa using nowhere [] text rfl

/-- A pattern that begins with `^` is tried at the start of the text only. -/
theorem findSubmatch_beginText (rs : List (Regex α)) (text : List α) :
    (concat (beginText :: rs)).findSubmatch text =
      ((group 0 (concat (beginText :: rs))).matchAt ⟨[], text, fun _ => none⟩ some).map Cursor.captures := by
  unfold findSubmatch
  rw [searchFrom_of_later_none [] text]
  intro ys zs _ nonempty
  obtain ⟨y, ys', rfl⟩ := List.exists_cons_of_ne_nil nonempty
  simp [beginText, matchAt_assert]

/-- A pattern that reads `word` right after an assertion matches nowhere in a text where
the word does not occur. -/
theorem searchFrom_assert_literal_of_absent [DecidableEq α] (holds : Option α → Option α → Bool) (fold : α → α)
    (word : List α) (tail : List (Regex α)) {before text : List α} (absent : ¬ word <:+: text.map fold) :
    (group 0 (concat (assert holds :: literal fold word :: tail))).searchFrom before text = none := by
  apply searchFrom_eq_none
  intro ys zs split
  simp only [matchAt_group, matchAt_concat_cons, matchAt_assert]
  split
  · apply matchAt_literal_of_not_prefix
    intro found
    apply absent
    rw [split, List.map_append]
    exact found.isInfix.trans (List.suffix_append (ys.map fold) (zs.map fold)).isInfix
  · rfl

/-! ### All matches -/

/-- One round of the loop of `FindAllSubmatch`. -/
theorem findAllFrom_succ (r : Regex α) (fuel : Nat) (previousEnd : Option Nat) (before rest : List α) :
    r.findAllFrom (fuel + 1) previousEnd before rest =
      match (group 0 r).searchFrom before rest with
      | none => []
      | some found =>
        if found.rest.length = rest.length then
          (if previousEnd = some rest.length then [] else [found.captures]) ++
            match rest with
            | [] => []
            | a :: more => r.findAllFrom fuel (some rest.length) (a :: before) more
        else found.captures :: r.findAllFrom fuel (some found.rest.length) found.before found.rest := rfl

/-- `FindAllSubmatch` finds nothing where the search finds nothing. -/
theorem findAll_of_none {r : Regex α} {text : List α} (nothing : (group 0 r).searchFrom [] text = none) :
    r.findAll text = [] := by
  simp [findAll, findAllFrom_succ, nothing]

/-- `FindAllSubmatch` with one match that consumes, and nothing after it. -/
theorem findAll_of_single {r : Regex α} {text : List α} {found : Cursor α}
    (first : (group 0 r).searchFrom [] text = some found) (consumed : found.rest.length < text.length)
    (after : (group 0 r).searchFrom found.before found.rest = none) : r.findAll text = [found.captures] := by
  obtain ⟨fuel, length⟩ : ∃ fuel, text.length = fuel + 1 := ⟨text.length - 1, by omega⟩
  unfold findAll
  simp only [findAllFrom_succ, first, Nat.ne_of_lt consumed, if_false]
  rw [length]
  simp only [findAllFrom_succ, after]

end Regex

end Lib
