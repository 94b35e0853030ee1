import GhOst.Lib.Template
import GhOst.Lib.Lists

/-! The client-side parameter interpolation of the vendored MySQL driver
(`interpolateParams`, used when the DSN sets `interpolateParams=true`): the
query must hold exactly one `?` per argument, and each `?`, wherever it stands
in the text, is replaced left to right by the next argument's literal. The
literal each argument type is written as is left as a parameter. -/

namespace GhOst.Driver

/-- The driver's errors: `driver.ErrSkip`, or an argument that could not be written. -/
inductive DriverError where
  | skip
  | other (message : String)
  deriving DecidableEq, Repr

section Interpolate

variable {β : Type} (encode : β → Except DriverError (List Char))

/-- The loop of `interpolateParams`: copy the text up to the next `?`, then
write the next argument in its place. -/
def interpolateLoop : List Char → List β → List Char → Except DriverError (List Char)
  | [], _, buf => .ok buf
  | c :: rest, args, buf =>
    if c = '?' then
      match args with
      -- past the last argument; the count check rules this out
      | [] => .error .skip
      | arg :: args => do
        let text ← encode arg
        interpolateLoop rest args (buf ++ text)
    else interpolateLoop rest args (buf ++ [c])

/-- `interpolateParams`: the count of `?` must equal the number of arguments. -/
def interpolateParams (query : List Char) (args : List β) : Except DriverError (List Char) :=
  if query.count '?' ≠ args.length then .error .skip
  else interpolateLoop encode query args []

/-- With one `?` per argument, the loop writes the arguments' literals into the
`?` characters in order, failing with the first argument it cannot write. -/
theorem interpolateLoop_eq (query : List Char) :
    ∀ (args : List β) (buf : List Char), query.count '?' = args.length →
      interpolateLoop encode query args buf =
        (fun texts => buf ++ Lib.substitute '?' query texts) <$> args.mapM encode := by
  induction query with
  | nil =>
    intro args buf counted
    have empty : args = [] := List.length_eq_zero_iff.mp (by simpa using counted.symm)
    subst args
    simp [interpolateLoop, Lib.substitute]
  | cons c rest ih =>
    intro args buf counted
    by_cases marker : c = '?'
    · subst c
      cases args with
      | nil => simp at counted
      | cons arg args =>
        have later : rest.count '?' = args.length := by simpa using counted
        simp only [interpolateLoop, if_true, List.mapM_cons]
        cases encode arg with
        | error e => rfl
        | ok text =>
          simp only [Lib.ok_bind, ih args (buf ++ text) later]
          cases args.mapM encode with
          | error e => rfl
          | ok texts => simp [Lib.substitute]
    · have later : rest.count '?' = args.length := by
        simpa [List.count_cons, marker] using counted
      simp only [interpolateLoop, marker, if_false, ih args (buf ++ [c]) later]
      cases args.mapM encode with
      | error e => rfl
      | ok texts => simp [Lib.substitute, marker]

/-- A query whose `?` characters are exactly the holes of a clean template, given
one argument per hole, is sent with the `j`-th argument's literal in the `j`-th
hole. -/
theorem interpolateParams_render {τ : Type} {pieces : List (Lib.Piece τ)}
    (clean : Lib.Piece.Clean '?' pieces) {args : List β}
    (counted : (Lib.Piece.holes pieces).length = args.length) {texts : List (List Char)}
    (written : args.mapM encode = .ok texts) :
    interpolateParams encode (Lib.Piece.render '?' pieces) args = .ok (Lib.Piece.fill pieces texts) := by
  have same : (Lib.Piece.render '?' pieces).count '?' = args.length := by
    rw [Lib.Piece.count_render clean, counted]
  have lengths : (Lib.Piece.holes pieces).length = texts.length := by
    rw [counted, Lib.length_of_mapM_ok args written]
  simp only [interpolateParams, same, ne_eq, not_true_eq_false, if_false,
    interpolateLoop_eq encode _ args [] same, written]
  simp [Lib.substitute_render clean texts lengths]

/-- A query with a `?` count other than the number of arguments is refused. -/
theorem interpolateParams_skip {query : List Char} {args : List β}
    (miscounted : query.count '?' ≠ args.length) :
    interpolateParams encode query args = .error .skip := by
  simp [interpolateParams, miscounted]

end Interpolate

end GhOst.Driver
