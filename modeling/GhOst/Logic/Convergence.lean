import GhOst.Logic.Replay
import GhOst.Lib.Lists

/-! The ghost table converges to the original when its unique index is the migration
key (`G = U`). The argument is per key: `applied` events in, the ghost holds for a
key either its row in some state of the original no older than `applied`, or nothing
while the key was never copied and has held a row all along. Applying the next event
replays it exactly, or leaves a newer row (an update that finds no row); a copy fills
only keys the ghost does not have. With every event applied, "no older" is "the final
state", and a key that held a row all along has been copied. When the ghost's unique
index is wider than `U`, `REPLACE` and `INSERT IGNORE` stop colliding on `U` and an
update can find two rows to overwrite. -/

namespace GhOst.Logic

section Views

variable {ρ κ σ : Type} [DecidableEq κ] (m : Migration ρ κ σ)

/-- A ghost statement read on the ghost table by key, when its unique index is the
migration key. -/
def statementView : GhostStatement κ σ → (κ → Option σ) → κ → Option σ
  | .delete uniqueKeyArgs, view => Function.update view uniqueKeyArgs none
  | .replace sharedArgs, view => Function.update view (m.ghostUniqueKey sharedArgs) (some sharedArgs)
  | .update sharedArgs uniqueKeyArgs, view =>
    Function.update view uniqueKeyArgs ((view uniqueKeyArgs).map fun _ => sharedArgs)

/-- The statements of an event read by key. -/
def eventView (event : RowEvent ρ) (view : κ → Option σ) : κ → Option σ :=
  (buildDMLEventQuery m event).foldl (fun view statement => statementView m statement view) view

/-- A copied chunk read by key: a key in the range that the ghost lacks gets its row. -/
def copyView (original : κ → Option ρ) (range : List κ) (view : κ → Option σ) (key : κ) : Option σ :=
  if key ∈ range ∧ view key = none then (original key).map m.sharedRow else view key

/-- An update statement writes a row that carries the key it selects. -/
def GhostStatement.Fits : GhostStatement κ σ → Prop
  | .update sharedArgs uniqueKeyArgs => m.ghostUniqueKey sharedArgs = uniqueKeyArgs
  | _ => True

theorem fits_of_buildDMLEventQuery (event : RowEvent ρ) :
    ∀ statement ∈ buildDMLEventQuery m event, GhostStatement.Fits m statement := by
  cases event with
  | insert newValues => simp [buildDMLEventQuery, GhostStatement.Fits]
  | delete whereValues => simp [buildDMLEventQuery, GhostStatement.Fits]
  | update whereValues newValues =>
    by_cases changed : m.uniqueKey whereValues = m.uniqueKey newValues
    · simp [buildDMLEventQuery, GhostStatement.Fits, changed, m.ghostUniqueKey_sharedRow]
    · simp [buildDMLEventQuery, GhostStatement.Fits, changed]

/-! ## The ghost table by key -/

/-- On a ghost whose unique index is the migration key, a fitting statement succeeds,
keeps the index unique and does to the rows by key what `statementView` says. -/
theorem applyStatement_view {rows : List σ} (unique : Mysql.Unique m.ghostUniqueKey rows)
    (statement : GhostStatement κ σ) (fits : GhostStatement.Fits m statement) :
    ∃ updated, applyStatement m m.ghostUniqueKey statement rows = .ok updated ∧
      Mysql.Unique m.ghostUniqueKey updated ∧
      Mysql.lookup m.ghostUniqueKey updated = statementView m statement (Mysql.lookup m.ghostUniqueKey rows) := by
  cases statement with
  | delete uniqueKeyArgs =>
    refine ⟨_, rfl, Mysql.unique_deleteWhere _ unique _, funext fun key => ?_⟩
    rw [Mysql.lookup_deleteWhere, statementView, Function.update_apply]
  | replace sharedArgs =>
    refine ⟨_, rfl, Mysql.unique_replace _ unique _, funext fun key => ?_⟩
    rw [Mysql.lookup_replace, statementView, Function.update_apply]
  | update sharedArgs uniqueKeyArgs =>
    obtain ⟨updated, ran, stillUnique, found⟩ := Mysql.updateWhere_of_index _ unique (fits : _ = _)
    exact ⟨updated, ran, stillUnique, funext fun key => by rw [found, statementView, Function.update_apply]⟩

/-- An event replayed on a ghost whose unique index is the migration key succeeds,
keeps the index unique and does to the rows by key what `eventView` says. -/
theorem applyDMLEvent_view (event : RowEvent ρ) {rows : List σ} (unique : Mysql.Unique m.ghostUniqueKey rows) :
    ∃ updated, applyDMLEvent m m.ghostUniqueKey event rows = .ok updated ∧
      Mysql.Unique m.ghostUniqueKey updated ∧
      Mysql.lookup m.ghostUniqueKey updated = eventView m event (Mysql.lookup m.ghostUniqueKey rows) := by
  unfold applyDMLEvent eventView
  -- the statements run in order; each one fits, so each succeeds
  generalize buildDMLEventQuery m event = statements, fits_of_buildDMLEventQuery m event = fits
  induction statements generalizing rows with
  | nil => exact ⟨rows, rfl, unique, rfl⟩
  | cons statement later ih =>
    obtain ⟨next, ran, nextUnique, nextView⟩ := applyStatement_view m unique statement (fits statement (by simp))
    obtain ⟨updated, rest, stillUnique, found⟩ :=
      ih nextUnique (fun statement member => fits statement (List.mem_cons_of_mem _ member))
    refine ⟨updated, ?_, stillUnique, ?_⟩
    · simp only [List.foldlM_cons, ran, Lib.ok_bind]
      exact rest
    · rw [found, nextView]
      rfl

/-- A copied chunk inserts, into a ghost whose unique index is the migration key, the
rows of the keys in its range that the ghost lacks. -/
theorem copyRows_view {original : κ → Option ρ} (keyed : WellKeyed m original) (range : List κ) :
    ∀ {rows : List σ}, Mysql.Unique m.ghostUniqueKey rows →
      Mysql.Unique m.ghostUniqueKey (copyRows m m.ghostUniqueKey original range rows) ∧
      Mysql.lookup m.ghostUniqueKey (copyRows m m.ghostUniqueKey original range rows) =
        copyView m original range (Mysql.lookup m.ghostUniqueKey rows) := by
  induction range with
  | nil => intro rows unique; exact ⟨unique, funext fun key => by simp [copyRows, copyView]⟩
  | cons first later ih =>
    intro rows unique
    -- the first key's row, if the ghost lacks it
    have step : ∃ next, Mysql.Unique m.ghostUniqueKey next ∧
        copyRows m m.ghostUniqueKey original (first :: later) rows = copyRows m m.ghostUniqueKey original later next ∧
        Mysql.lookup m.ghostUniqueKey next = copyView m original [first] (Mysql.lookup m.ghostUniqueKey rows) := by
      cases found : original first with
      | none =>
        refine ⟨rows, unique, by simp [copyRows, found], funext fun key => ?_⟩
        by_cases same : key = first
        · subst same
          by_cases absent : Mysql.lookup m.ghostUniqueKey rows key = none <;> simp [copyView, absent, found]
        · simp [copyView, same]
      | some row =>
        have owned : m.ghostUniqueKey (m.sharedRow row) = first := by
          rw [m.ghostUniqueKey_sharedRow, keyed first row found]
        refine ⟨Mysql.insertIgnore m.ghostUniqueKey (m.sharedRow row) rows, Mysql.unique_insertIgnore _ unique _,
          by simp [copyRows, found], funext fun key => ?_⟩
        rw [Mysql.lookup_insertIgnore, owned]
        by_cases same : key = first
        · subst same
          by_cases absent : Mysql.lookup m.ghostUniqueKey rows key = none <;> simp [copyView, absent, found]
        · simp [copyView, same]
    obtain ⟨next, nextUnique, unfolded, nextView⟩ := step
    obtain ⟨stillUnique, found⟩ := ih nextUnique
    refine ⟨unfolded ▸ stillUnique, ?_⟩
    rw [unfolded, found, nextView]
    funext key
    by_cases same : key = first
    · subst same
      by_cases absent : Mysql.lookup m.ghostUniqueKey rows key = none <;> simp [copyView, absent]
    · simp [copyView, same]

/-! ## The original table -/

theorem stateAt_succ (initial : κ → Option ρ) (events : List (RowEvent ρ)) {i : Nat} (bound : i < events.length) :
    stateAt m initial events (i + 1) = RowEvent.apply m (stateAt m initial events i) (events.get ⟨i, bound⟩) := by
  simp only [stateAt, List.take_add_one, List.getElem?_eq_getElem bound, Option.toList_some, List.foldl_append,
    List.foldl_cons, List.foldl_nil, List.get_eq_getElem]

theorem stateAt_cons (initial : κ → Option ρ) (event : RowEvent ρ) (events : List (RowEvent ρ)) (count : Nat) :
    stateAt m initial (event :: events) (count + 1) = stateAt m (RowEvent.apply m initial event) events count :=
  rfl

/-- A valid run is a valid first event, then a valid run from the state it leaves. -/
theorem validRun_cons {initial : κ → Option ρ} {event : RowEvent ρ} {events : List (RowEvent ρ)}
    (valid : ValidRun m initial (event :: events)) :
    RowEvent.Valid m initial event ∧ ValidRun m (RowEvent.apply m initial event) events :=
  ⟨valid 0 (Nat.zero_lt_succ _), fun i bound => valid (i + 1) (Nat.succ_lt_succ bound)⟩

theorem wellKeyed_apply {original : κ → Option ρ} (keyed : WellKeyed m original) (event : RowEvent ρ) :
    WellKeyed m (RowEvent.apply m original event) := by
  intro key row found
  cases event with
  | insert newValues =>
    simp only [RowEvent.apply, Function.update_apply] at found
    split at found
    · next same => cases found; exact same.symm
    · exact keyed key row found
  | delete whereValues =>
    simp only [RowEvent.apply, Function.update_apply] at found
    split at found
    · cases found
    · exact keyed key row found
  | update whereValues newValues =>
    simp only [RowEvent.apply, Function.update_apply] at found
    split at found
    · next same => cases found; exact same.symm
    · split at found
      · cases found
      · exact keyed key row found

theorem wellKeyed_stateAt {initial : κ → Option ρ} (keyed : WellKeyed m initial) (events : List (RowEvent ρ))
    (count : Nat) : WellKeyed m (stateAt m initial events count) := by
  unfold stateAt
  generalize events.take count = applied
  induction applied generalizing initial with
  | nil => exact keyed
  | cons event later ih => exact ih (wellKeyed_apply m keyed event)

/-- One valid event, seen at one key: the ghost replays it exactly, or neither side
changes, or an update finds no row on the ghost while the original keeps one. -/
theorem eventView_cases {original : κ → Option ρ} {event : RowEvent ρ} (valid : RowEvent.Valid m original event)
    (view : κ → Option σ) (key : κ) :
    eventView m event view key = (RowEvent.apply m original event key).map m.sharedRow ∨
      (eventView m event view key = view key ∧ RowEvent.apply m original event key = original key) ∨
      (view key = none ∧ eventView m event view key = none ∧ original key ≠ none ∧
        RowEvent.apply m original event key ≠ none) := by
  cases event with
  | insert newValues =>
    by_cases same : key = m.uniqueKey newValues
    · left; simp [eventView, buildDMLEventQuery, statementView, RowEvent.apply, same, m.ghostUniqueKey_sharedRow]
    · right; left
      simp [eventView, buildDMLEventQuery, statementView, RowEvent.apply, same, m.ghostUniqueKey_sharedRow]
  | delete whereValues =>
    by_cases same : key = m.uniqueKey whereValues
    · left; simp [eventView, buildDMLEventQuery, statementView, RowEvent.apply, same]
    · right; left; simp [eventView, buildDMLEventQuery, statementView, RowEvent.apply, same]
  | update whereValues newValues =>
    by_cases changed : m.uniqueKey whereValues = m.uniqueKey newValues
    · -- the key stays: one update statement on the ghost
      have kept := changed.symm
      by_cases same : key = m.uniqueKey whereValues
      · subst same
        cases present : view (m.uniqueKey whereValues) with
        | some old =>
          left
          simp [eventView, buildDMLEventQuery, statementView, RowEvent.apply, kept, present]
        | none =>
          right; right
          refine ⟨rfl, by simp [eventView, buildDMLEventQuery, statementView, kept, present], ?_, ?_⟩
          · simp [valid.1]
          · simp [RowEvent.apply, kept]
      · right; left
        simp [eventView, buildDMLEventQuery, statementView, RowEvent.apply, kept, same]
    · -- the key changes: a delete and a replace
      by_cases new : key = m.uniqueKey newValues
      · left
        simp [eventView, buildDMLEventQuery, statementView, RowEvent.apply, changed, new, m.ghostUniqueKey_sharedRow]
      · by_cases old : key = m.uniqueKey whereValues
        · left
          simp [eventView, buildDMLEventQuery, statementView, RowEvent.apply, changed, old,
            m.ghostUniqueKey_sharedRow]
        · right; left
          simp [eventView, buildDMLEventQuery, statementView, RowEvent.apply, changed, new, old,
            m.ghostUniqueKey_sharedRow]

/-- A ghost that holds exactly the original's rows still does after a valid event:
an update can miss its row only on a ghost that lacks a row the original has. -/
theorem eventView_exact {original : κ → Option ρ} {event : RowEvent ρ} (valid : RowEvent.Valid m original event) :
    eventView m event (fun key => (original key).map m.sharedRow) =
      fun key => (RowEvent.apply m original event key).map m.sharedRow := by
  funext key
  rcases eventView_cases m valid (fun key => (original key).map m.sharedRow) key with
    replayed | ⟨unchanged, same⟩ | ⟨absent, -, held, -⟩
  · exact replayed
  · rw [unchanged, same]
  · exact absurd (Option.map_eq_none_iff.mp absent) held

end Views

/-! ## The invariant, key by key -/

section Invariant

variable {ρ κ σ : Type} [DecidableEq κ] (m : Migration ρ κ σ) (states : Nat → κ → Option ρ) (total : Nat)

/-- What the ghost holds for one key once `applied` events are in: the key's row in
some state no older than that, or nothing while the key was never copied and has held
a row in every state so far. -/
def KeyInvariant (applied : Nat) (view : κ → Option σ) (copied : List κ) (key : κ) : Prop :=
  (∃ state, applied ≤ state ∧ state ≤ total ∧ view key = (states state key).map m.sharedRow) ∨
    (view key = none ∧ key ∉ copied ∧ ∀ i ≤ applied, states i key ≠ none)

omit [DecidableEq κ] in
theorem keyInvariant_start (key : κ) : KeyInvariant m states total 0 (fun _ => none) [] key := by
  by_cases empty : states 0 key = none
  · left
    exact ⟨0, le_rfl, Nat.zero_le _, by simp [empty]⟩
  · right
    refine ⟨rfl, List.not_mem_nil, fun i bound => ?_⟩
    rwa [Nat.le_zero.mp bound]

/-- Applying the next valid event keeps the invariant at every key. -/
theorem keyInvariant_event {applied : Nat} (within : applied < total) {event : RowEvent ρ}
    (valid : RowEvent.Valid m (states applied) event)
    (next : states (applied + 1) = RowEvent.apply m (states applied) event)
    {view : κ → Option σ} {copied : List κ} {key : κ} (holds : KeyInvariant m states total applied view copied key) :
    KeyInvariant m states total (applied + 1) (eventView m event view) copied key := by
  rcases eventView_cases m valid view key with exact | ⟨unchanged, same⟩ | ⟨absent, stillAbsent, held, holding⟩
  · -- replayed exactly: the key stands for the state just reached
    left
    exact ⟨applied + 1, le_rfl, within, by rw [exact, next]⟩
  · rcases holds with ⟨state, newer, bounded, found⟩ | ⟨absent, uncopied, held⟩
    · left
      rcases Nat.lt_or_eq_of_le newer with later | now
      · exact ⟨state, later, bounded, by rw [unchanged, found]⟩
      · subst now
        exact ⟨applied + 1, le_rfl, within, by rw [unchanged, found, next, same]⟩
    · right
      refine ⟨by rw [unchanged, absent], uncopied, fun i bound => ?_⟩
      rcases Nat.lt_or_eq_of_le bound with earlier | now
      · exact held i (Nat.lt_succ_iff.mp earlier)
      · subst now
        rw [next, same]
        exact held applied le_rfl
  · rcases holds with ⟨state, newer, bounded, found⟩ | ⟨_, uncopied, always⟩
    · -- the ghost lacks the key, so the state it stands for has no row there: a later one
      left
      have missing : states state key = none := by
        rw [absent] at found
        exact Option.map_eq_none_iff.mp found.symm
      have later : applied < state := Nat.lt_of_le_of_ne newer fun now => held (now ▸ missing)
      exact ⟨state, later, bounded, by rw [stillAbsent, missing, Option.map_none]⟩
    · right
      refine ⟨stillAbsent, uncopied, fun i bound => ?_⟩
      rcases Nat.lt_or_eq_of_le bound with earlier | now
      · exact always i (Nat.lt_succ_iff.mp earlier)
      · subst now
        rw [next]
        exact holding

/-- Copying a chunk from a state no older than the events applied keeps the invariant
at every key, and counts the range as copied. -/
theorem keyInvariant_copy {applied state : Nat} (newer : applied ≤ state) (bounded : state ≤ total)
    (range : List κ) {view : κ → Option σ} {copied : List κ} {key : κ}
    (holds : KeyInvariant m states total applied view copied key) :
    KeyInvariant m states total applied (copyView m (states state) range view) (copied ++ range) key := by
  by_cases filled : key ∈ range ∧ view key = none
  · left
    exact ⟨state, newer, bounded, by rw [copyView, if_pos filled]⟩
  · have unchanged : copyView m (states state) range view key = view key := by rw [copyView, if_neg filled]
    rcases holds with ⟨older, newer', bounded', found⟩ | ⟨absent, uncopied, held⟩
    · left
      exact ⟨older, newer', bounded', by rw [unchanged, found]⟩
    · right
      have outside : key ∉ range := fun member => filled ⟨member, absent⟩
      exact ⟨by rw [unchanged, absent], by simp [uncopied, outside], held⟩

omit [DecidableEq κ] in
/-- With every event applied, the invariant pins every key to the final state, once
every key that has held a row all along has been copied. -/
theorem keyInvariant_final {view : κ → Option σ} {copied : List κ}
    (holds : ∀ key, KeyInvariant m states total total view copied key)
    (covered : ∀ key, (∀ i ≤ total, states i key ≠ none) → key ∈ copied) (key : κ) :
    view key = (states total key).map m.sharedRow := by
  rcases holds key with ⟨state, newer, bounded, found⟩ | ⟨_, uncopied, always⟩
  · rwa [Nat.le_antisymm bounded newer] at found
  · exact absurd (covered key always) uncopied

end Invariant

/-- A ghost whose index is unique and whose lookups are a state's shared rows holds
only such rows. -/
theorem mem_of_lookup_eq {ρ κ σ : Type} [DecidableEq κ] (m : Migration ρ κ σ) {rows : List σ}
    (unique : Mysql.Unique m.ghostUniqueKey rows) {final : κ → Option ρ}
    (found : ∀ key, Mysql.lookup m.ghostUniqueKey rows key = (final key).map m.sharedRow) :
    ∀ row ∈ rows, ∃ original, final (m.ghostUniqueKey row) = some original ∧ row = m.sharedRow original := by
  intro row member
  have present := found (m.ghostUniqueKey row)
  rw [Mysql.lookup_of_mem _ unique member] at present
  obtain ⟨original, atKey, shared⟩ := Option.map_eq_some_iff.mp present.symm
  exact ⟨original, atKey, shared.symm⟩

section Run

variable {ρ κ σ : Type} [DecidableEq κ] (m : Migration ρ κ σ)

/-- A whole admissible schedule, run on a ghost whose unique index is the migration
key, succeeds, applies every event and keeps the invariant at every key. -/
theorem runSteps_keyInvariant {initial : κ → Option ρ} (keyed : WellKeyed m initial) {events : List (RowEvent ρ)}
    (valid : ValidRun m initial events) :
    ∀ (steps : List (Step κ)) (applied : Nat) (rows : List σ) (copied : List κ),
      Admissible events.length steps applied → Mysql.Unique m.ghostUniqueKey rows →
      (∀ key, KeyInvariant m (stateAt m initial events) events.length applied
        (Mysql.lookup m.ghostUniqueKey rows) copied key) →
      ∃ final, runSteps m m.ghostUniqueKey initial events steps applied rows = .ok (events.length, final) ∧
        Mysql.Unique m.ghostUniqueKey final ∧
        ∀ key, KeyInvariant m (stateAt m initial events) events.length events.length
          (Mysql.lookup m.ghostUniqueKey final) (copied ++ copiedKeys steps) key
  | [], applied, rows, copied, admissible, unique, holds => by
    have done : applied = events.length := admissible
    subst done
    exact ⟨rows, rfl, unique, by simpa [copiedKeys] using holds⟩
  | .applyEvent :: steps, applied, rows, copied, ⟨within, admissible⟩, unique, holds => by
    obtain ⟨next, ran, nextUnique, nextView⟩ := applyDMLEvent_view m (events.get ⟨applied, within⟩) unique
    have nextHolds : ∀ key, KeyInvariant m (stateAt m initial events) events.length (applied + 1)
        (Mysql.lookup m.ghostUniqueKey next) copied key := fun key => by
      rw [nextView]
      exact keyInvariant_event m _ _ within (valid applied within) (stateAt_succ m initial events within) (holds key)
    obtain ⟨final, rest, finalUnique, finalHolds⟩ :=
      runSteps_keyInvariant keyed valid steps (applied + 1) next copied admissible nextUnique nextHolds
    refine ⟨final, ?_, finalUnique, by simpa [copiedKeys] using finalHolds⟩
    have found : events[applied]? = some (events.get ⟨applied, within⟩) := by
      simp [List.getElem?_eq_getElem within]
    simp only [runSteps, found, ran, Lib.ok_bind]
    exact rest
  | .copyChunk state range :: steps, applied, rows, copied, ⟨newer, bounded, admissible⟩, unique, holds => by
    obtain ⟨copiedUnique, copiedView⟩ := copyRows_view m (wellKeyed_stateAt m keyed events state) range unique
    have nextHolds : ∀ key, KeyInvariant m (stateAt m initial events) events.length applied
        (Mysql.lookup m.ghostUniqueKey (copyRows m m.ghostUniqueKey (stateAt m initial events state) range rows))
        (copied ++ range) key := fun key => by
      rw [copiedView]
      exact keyInvariant_copy m _ _ newer bounded range (holds key)
    obtain ⟨final, rest, finalUnique, finalHolds⟩ :=
      runSteps_keyInvariant keyed valid steps applied _ (copied ++ range) admissible copiedUnique nextHolds
    exact ⟨final, rest, finalUnique, by simpa [copiedKeys, List.append_assoc] using finalHolds⟩

/-- Replay converges when the ghost's unique index is the migration key: for every
valid event sequence and every admissible interleaving with chunk copies, in which
every key that holds a row throughout lies in a copied chunk, the run applies every
event without error and leaves in the ghost exactly one row per key of the final
state, its shared columns. -/
theorem replay_converges (initial : κ → Option ρ) (keyed : WellKeyed m initial) (events : List (RowEvent ρ))
    (valid : ValidRun m initial events) (steps : List (Step κ)) (admissible : Admissible events.length steps 0)
    (covered : ∀ key, (∀ i ≤ events.length, stateAt m initial events i key ≠ none) → key ∈ copiedKeys steps) :
    ∃ rows, runSteps m m.ghostUniqueKey initial events steps 0 [] = .ok (events.length, rows) ∧
      Mysql.Unique m.ghostUniqueKey rows ∧
      (∀ key, Mysql.lookup m.ghostUniqueKey rows key =
        (stateAt m initial events events.length key).map m.sharedRow) ∧
      ∀ row ∈ rows, ∃ original, stateAt m initial events events.length (m.ghostUniqueKey row) = some original ∧
        row = m.sharedRow original := by
  have empty : Mysql.lookup m.ghostUniqueKey ([] : List σ) = fun _ => none := funext (Mysql.lookup_nil _)
  obtain ⟨rows, ran, unique, holds⟩ := runSteps_keyInvariant m keyed valid steps 0 [] [] admissible
    (List.nodup_nil) (fun key => empty ▸ keyInvariant_start m _ _ key)
  -- with every event applied, the invariant pins every key to the final state
  have final := keyInvariant_final m _ _ holds fun key always => List.mem_append_right [] (covered key always)
  exact ⟨rows, ran, unique, final, mem_of_lookup_eq m unique final⟩

end Run

/-! ## A ghost index wider than the migration key -/

/-- Rows `(u, g)` migrated by the key `u`, all columns shared. -/
def keyedPairs : Migration (Nat × Nat) Nat (Nat × Nat) where
  uniqueKey := Prod.fst
  sharedRow := id
  ghostUniqueKey := Prod.fst
  ghostUniqueKey_sharedRow := fun _ => rfl

/-- The row `(5, 1)` is inserted, then updated to `(5, 2)`. -/
def insertThenUpdate : List (RowEvent (Nat × Nat)) :=
  [.insert (5, 1), .update (5, 1) (5, 2)]

/-- The chunk holding key 5 is copied after both events, before either is applied. -/
def copyFirst : List (Step Nat) :=
  [.copyChunk 2 [5], .applyEvent, .applyEvent]

theorem insertThenUpdate_valid : ValidRun keyedPairs (fun _ => none) insertThenUpdate := by
  intro i bound
  match i, bound with
  | 0, _ => rfl
  | 1, _ => exact ⟨rfl, Or.inl rfl⟩

theorem copyFirst_admissible : Admissible insertThenUpdate.length copyFirst 0 :=
  ⟨by decide, by decide, by decide, by decide, rfl⟩

/-- With the ghost's unique index on `u`, the copied `(5, 2)` is what the replay ends on. -/
theorem replay_converges_copy_first :
    ∃ rows, runSteps keyedPairs keyedPairs.ghostUniqueKey (fun _ => none) insertThenUpdate copyFirst 0 [] =
        .ok (insertThenUpdate.length, rows) ∧
      Mysql.Unique keyedPairs.ghostUniqueKey rows ∧
      (∀ key, Mysql.lookup keyedPairs.ghostUniqueKey rows key =
        (stateAt keyedPairs (fun _ => none) insertThenUpdate insertThenUpdate.length key).map
          keyedPairs.sharedRow) ∧
      ∀ row ∈ rows, ∃ original,
        stateAt keyedPairs (fun _ => none) insertThenUpdate insertThenUpdate.length
          (keyedPairs.ghostUniqueKey row) = some original ∧ row = keyedPairs.sharedRow original :=
  replay_converges keyedPairs (fun _ => none) (fun _ _ found => nomatch found) insertThenUpdate
    insertThenUpdate_valid copyFirst copyFirst_admissible (fun _ always => absurd rfl (always 0 (Nat.zero_le _)))

/-- With the ghost's unique index on `(u, g)`, wider than the migration key: the copy
brings `(5, 2)`, the replayed `REPLACE` of `(5, 1)` no longer collides with it, and the
replayed update writes `(5, 2)` over both rows and fails on a duplicate entry. -/
theorem replay_wider_unique_key_fails :
    WellKeyed keyedPairs (fun _ => none) ∧ ValidRun keyedPairs (fun _ => none) insertThenUpdate ∧
      Admissible insertThenUpdate.length copyFirst 0 ∧
      runSteps keyedPairs id (fun _ => none) insertThenUpdate copyFirst 0 [] = .error .duplicateEntry :=
  ⟨(fun _ _ found => nomatch found), insertThenUpdate_valid, copyFirst_admissible, by decide⟩

end GhOst.Logic
