import Mathlib.Data.List.Basic

/-! Texts with holes. A template is a list of literal pieces and holes; it is
rendered by spelling every hole as one marker character, and filled by writing
the `j`-th value into the `j`-th hole. Replacing the marker characters of a text
left to right, as a client-side interpolator does, fills the template it was
rendered from exactly when no literal piece spells the marker. -/

namespace Lib

universe u

/-- A piece of a template: literal characters, or a hole tagged with what it stands for. -/
inductive Piece (τ : Type u) where
  | text (chars : List Char)
  | hole (tag : τ)
  deriving DecidableEq, Repr

namespace Piece

variable {τ : Type u}

/-- The template's text with every hole spelled as `marker`. -/
def render (marker : Char) : List (Piece τ) → List Char
  | [] => []
  | text chars :: rest => chars ++ render marker rest
  | hole _ :: rest => marker :: render marker rest

/-- The holes' tags, left to right. -/
def holes : List (Piece τ) → List τ
  | [] => []
  | text _ :: rest => holes rest
  | hole tag :: rest => tag :: holes rest

/-- No literal piece spells the marker, so the marker characters of the
rendered text are exactly its holes. -/
def Clean (marker : Char) (pieces : List (Piece τ)) : Prop :=
  ∀ chars, text chars ∈ pieces → marker ∉ chars

/-- The template's text with the `j`-th hole filled by the `j`-th value. -/
def fill : List (Piece τ) → List (List Char) → List Char
  | [], _ => []
  | text chars :: rest, values => chars ++ fill rest values
  | hole _ :: rest, value :: values => value ++ fill rest values
  | hole _ :: rest, [] => fill rest []

@[simp] theorem render_nil (marker : Char) : render marker ([] : List (Piece τ)) = [] := rfl

@[simp] theorem render_text (marker : Char) (chars : List Char) (rest : List (Piece τ)) :
    render marker (text chars :: rest) = chars ++ render marker rest := rfl

@[simp] theorem render_hole (marker : Char) (tag : τ) (rest : List (Piece τ)) :
    render marker (hole tag :: rest) = marker :: render marker rest := rfl

@[simp] theorem render_append (marker : Char) (first second : List (Piece τ)) :
    render marker (first ++ second) = render marker first ++ render marker second := by
  induction first with
  | nil => rfl
  | cons piece rest ih => cases piece <;> simp [ih]

@[simp] theorem holes_nil : holes ([] : List (Piece τ)) = [] := rfl

@[simp] theorem holes_text (chars : List Char) (rest : List (Piece τ)) :
    holes (text chars :: rest) = holes rest := rfl

@[simp] theorem holes_hole (tag : τ) (rest : List (Piece τ)) :
    holes (hole tag :: rest) = tag :: holes rest := rfl

@[simp] theorem holes_append (first second : List (Piece τ)) :
    holes (first ++ second) = holes first ++ holes second := by
  induction first with
  | nil => rfl
  | cons piece rest ih => cases piece <;> simp [ih]

@[simp] theorem clean_nil (marker : Char) : Clean marker ([] : List (Piece τ)) := by
  simp [Clean]

@[simp] theorem clean_cons_text (marker : Char) (chars : List Char) (rest : List (Piece τ)) :
    Clean marker (text chars :: rest) ↔ marker ∉ chars ∧ Clean marker rest := by
  simp [Clean]

@[simp] theorem clean_cons_hole (marker : Char) (tag : τ) (rest : List (Piece τ)) :
    Clean marker (hole tag :: rest) ↔ Clean marker rest := by
  simp [Clean]

@[simp] theorem clean_append (marker : Char) (first second : List (Piece τ)) :
    Clean marker (first ++ second) ↔ Clean marker first ∧ Clean marker second := by
  simp only [Clean, List.mem_append]
  constructor
  · intro clean
    exact ⟨fun chars member => clean chars (Or.inl member),
      fun chars member => clean chars (Or.inr member)⟩
  · rintro ⟨first, second⟩ chars (member | member)
    · exact first chars member
    · exact second chars member

/-- Groups of pieces joined by a literal separator. -/
def join (separator : List Char) : List (List (Piece τ)) → List (Piece τ)
  | [] => []
  | [group] => group
  | group :: next :: rest => group ++ text separator :: join separator (next :: rest)

@[simp] theorem render_join (marker : Char) (separator : List Char) :
    ∀ groups : List (List (Piece τ)),
      render marker (join separator groups) = separator.intercalate (groups.map (render marker))
  | [] => rfl
  | [group] => by simp [join]
  | group :: next :: rest => by
    simp [join, render_join marker separator (next :: rest), List.intercalate_cons_cons]

@[simp] theorem holes_join (separator : List Char) :
    ∀ groups : List (List (Piece τ)), holes (join separator groups) = (groups.map holes).flatten
  | [] => rfl
  | [group] => by simp [join]
  | group :: next :: rest => by simp [join, holes_join separator (next :: rest)]

theorem clean_join {marker : Char} {separator : List Char} (unmarked : marker ∉ separator) :
    ∀ {groups : List (List (Piece τ))}, (∀ group ∈ groups, Clean marker group) →
      Clean marker (join separator groups)
  | [], _ => clean_nil marker
  | [group], each => by simpa [join] using each group (by simp)
  | group :: next :: rest, each => by
    simp only [join, clean_append, clean_cons_text]
    refine ⟨each group (by simp), unmarked, clean_join unmarked ?_⟩
    exact fun later member => each later (List.mem_cons_of_mem group member)

/-- In a clean template's text the marker occurs once per hole. -/
theorem count_render {marker : Char} {pieces : List (Piece τ)} (clean : Clean marker pieces) :
    (render marker pieces).count marker = (holes pieces).length := by
  induction pieces with
  | nil => rfl
  | cons piece rest ih =>
    cases piece with
    | text chars =>
      rw [clean_cons_text] at clean
      simp [List.count_eq_zero.mpr clean.1, ih clean.2]
    | hole tag =>
      rw [clean_cons_hole] at clean
      simp [ih clean]

end Piece

/-- Replace the marker characters of a text left to right by the values in turn;
a marker past the last value is kept. -/
def substitute (marker : Char) : List Char → List (List Char) → List Char
  | [], _ => []
  | c :: rest, values =>
    if c = marker then
      match values with
      | value :: values => value ++ substitute marker rest values
      | [] => c :: substitute marker rest []
    else c :: substitute marker rest values

theorem substitute_append_of_not_mem {marker : Char} {chars : List Char} (absent : marker ∉ chars)
    (rest : List Char) (values : List (List Char)) :
    substitute marker (chars ++ rest) values = chars ++ substitute marker rest values := by
  induction chars with
  | nil => rfl
  | cons c cs ih =>
    have other : c ≠ marker := fun same => absent (same ▸ List.mem_cons_self)
    simp only [List.cons_append, substitute, other, if_false]
    rw [ih (fun member => absent (List.mem_cons_of_mem c member))]

/-- Substituting the values into the text of a clean template fills its holes in order. -/
theorem substitute_render {marker : Char} {pieces : List (Piece τ)}
    (clean : Piece.Clean marker pieces) :
    ∀ (values : List (List Char)), (Piece.holes pieces).length = values.length →
      substitute marker (Piece.render marker pieces) values = Piece.fill pieces values := by
  induction pieces with
  | nil => intro values _; rfl
  | cons piece rest ih =>
    intro values lengths
    cases piece with
    | text chars =>
      rw [Piece.clean_cons_text] at clean
      simp only [Piece.render_text, Piece.fill]
      rw [substitute_append_of_not_mem clean.1, ih clean.2 values lengths]
    | hole tag =>
      rw [Piece.clean_cons_hole] at clean
      cases values with
      | nil => simp at lengths
      | cons value values =>
        simp only [Piece.render_hole, Piece.fill, substitute, if_true]
        rw [ih clean values (by simpa using lengths)]

end Lib
