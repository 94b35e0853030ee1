import GhOst.Logic.Convergence
import GhOst.Logic.SessionTimeZone

/-! The migration as it runs against a live original table. Clients commit the
binlog's events on the original table one after the other; the applier replays the
committed ones on the ghost table, in order; and `executeWriteFuncs` runs, between
them, the copy functions `iterateChunks` queues, each of whose queries reads the table
as it is when the query runs: `ReadMigrationRangeValues` once, then
`CalculateNextIterationRangeEndValues` and `ApplyIterationInsertQuery` in turn. Every
interleaving of the three is a run of `migrationStep`.

When the ghost's unique index is the migration key, a run that has finished row copy
and replayed every event leaves the ghost holding exactly the original's final rows:
the ranges, computed from the live table, reach every key that holds a row all along,
which is what the per-key invariant of `GhOst.Logic.Convergence` needs at the end. The
argument is the invariant that the next range's start comparison rejects only keys
already copied. From every reachable state such a finished run is reachable: with no
more commits, each range end is a key beyond the last one. -/

namespace GhOst.Logic

/-- The migration: the events committed on the original table, the events the
applier has replayed, where row copy stands, and the ghost table. -/
structure LiveMigration (κ σ : Type) where
  committed : Nat
  applied : Nat
  rowCopy : RowCopyStep
  context : Option (IterationContext κ)
  ghost : List σ

/-- What happens next: a client commits the binlog's next event, the applier replays
the next committed event, or the next copy function runs. -/
inductive MigrationAction where
  | commit
  | applyEvent
  | rowCopy
  deriving DecidableEq, Repr

section Live

variable {ρ κ σ γ : Type} [LinearOrder κ] [DecidableEq γ] (m : Migration ρ κ σ) (index : σ → γ)
  (initial : κ → Option ρ) (events : List (RowEvent ρ)) (keysAt : Nat → List κ) (chunkSize : Nat)

/-- Nothing committed, replayed or copied yet. -/
def LiveMigration.start : LiveMigration κ σ where
  committed := 0
  applied := 0
  rowCopy := .readMigrationRangeValues
  context := none
  ghost := []

/-- The next copy function, its queries answered by the table after the events
committed so far, whose keys in index order are `keysAt`. -/
def copyStep (state : LiveMigration κ σ) : Option (LiveMigration κ σ) :=
  let keys := keysAt state.committed
  match state.rowCopy, state.context with
  | .readMigrationRangeValues, _ =>
    match readMigrationRangeValues keys with
    | (some rangeMin, some rangeMax) =>
      some { state with
        rowCopy := .calculateNextIterationRangeEndValues,
        context := some (startContext rangeMin rangeMax chunkSize) }
    | _ => some { state with rowCopy := .rowCopyComplete }
  | .calculateNextIterationRangeEndValues, some context =>
    match calculateNextIterationRangeEndValues keys context with
    | (true, next) => some { state with rowCopy := .applyIterationInsertQuery, context := some next }
    | (false, next) => some { state with rowCopy := .rowCopyComplete, context := some next }
  | .applyIterationInsertQuery, some context =>
    context.iterationRange.map fun chunk =>
      { state with
        ghost := copyRows m index (stateAt m initial events state.committed) (chunk.rows keys) state.ghost,
        context := some { context with iteration := context.iteration + 1 },
        rowCopy := .calculateNextIterationRangeEndValues }
  | _, _ => none

/-- One step of the migration; a replayed event whose statements fail stops it. -/
def migrationStep (state : LiveMigration κ σ) : MigrationAction → Option (LiveMigration κ σ)
  | .commit =>
    if state.committed < events.length then some { state with committed := state.committed + 1 } else none
  | .applyEvent =>
    if state.applied < state.committed then
      match events[state.applied]? with
      | some event =>
        match applyDMLEvent m index event state.ghost with
        | .ok ghost => some { state with applied := state.applied + 1, ghost := ghost }
        | .error _ => none
      | none => none
    else none
  | .rowCopy => copyStep m index initial events keysAt chunkSize state

/-- The migration after a schedule of commits, replays and copy functions. -/
def runMigration (actions : List MigrationAction) : Option (LiveMigration κ σ) :=
  Lib.run (migrationStep m index initial events keysAt chunkSize) LiveMigration.start actions

/-! ## What row copy has reached -/

/-- The key holds a row in every state of the original table, up to the last event. -/
def AlwaysPresent (key : κ) : Prop :=
  ∀ i ≤ events.length, stateAt m initial events i key ≠ none

/-- Every always-present key that a range's start comparison rejects has been copied. -/
def CoveredBefore (copied : List κ) (rangeStart : κ) (includeRangeStartValues : Bool) : Prop :=
  ∀ key, AlwaysPresent m initial events key → rangeStartComparison rangeStart includeRangeStartValues key = false →
    key ∈ copied

/-- The range read at the start bounds every always-present key. -/
def Bounds (context : IterationContext κ) : Prop :=
  ∀ key, AlwaysPresent m initial events key →
    context.migrationRangeMinValues ≤ key ∧ key ≤ context.migrationRangeMaxValues

/-- What row copy has reached in each phase: while it iterates, the range bounds every
always-present key, and the next range starts past only keys already copied; once it
is complete, it has copied every always-present key. -/
def CopyCoverage (copied : List κ) : RowCopyStep → Option (IterationContext κ) → Prop
  | .readMigrationRangeValues, _ => True
  | .calculateNextIterationRangeEndValues, some context =>
    Bounds m initial events context ∧
      CoveredBefore m initial events copied context.nextRangeStart (context.iteration == 0)
  | .applyIterationInsertQuery, some context =>
    Bounds m initial events context ∧ ∃ rangeStart rangeEnd,
      context.migrationIterationRangeMinValues = some rangeStart ∧
        context.migrationIterationRangeMaxValues = some rangeEnd ∧
        CoveredBefore m initial events copied rangeStart (context.iteration == 0)
  | .rowCopyComplete, _ => ∀ key, AlwaysPresent m initial events key → key ∈ copied
  | _, none => False

/-- What holds of every state the migration reaches: nothing is replayed before it is
committed, the ghost's index is unique, and for the keys copied so far the replay's
per-key invariant and the coverage of row copy hold. -/
structure LiveInvariant (state : LiveMigration κ σ) : Prop where
  replayed : state.applied ≤ state.committed
  bounded : state.committed ≤ events.length
  unique : Mysql.Unique m.ghostUniqueKey state.ghost
  progress : ∃ copied, (∀ key, KeyInvariant m (stateAt m initial events) events.length state.applied
      (Mysql.lookup m.ghostUniqueKey state.ghost) copied key) ∧
    CopyCoverage m initial events copied state.rowCopy state.context

/-- `LiveInvariant` with the keys copied so far named. A step keeps it for the keys
copied before it and those it copies, so that a run can be followed with them. -/
structure CopiedInvariant (state : LiveMigration κ σ) (copied : List κ) : Prop where
  replayed : state.applied ≤ state.committed
  bounded : state.committed ≤ events.length
  unique : Mysql.Unique m.ghostUniqueKey state.ghost
  keys : ∀ key, KeyInvariant m (stateAt m initial events) events.length state.applied
    (Mysql.lookup m.ghostUniqueKey state.ghost) copied key
  covers : CopyCoverage m initial events copied state.rowCopy state.context

theorem CopiedInvariant.start : CopiedInvariant m initial events (LiveMigration.start : LiveMigration κ σ) [] := by
  have empty : Mysql.lookup m.ghostUniqueKey ([] : List σ) = fun _ => none := funext (Mysql.lookup_nil _)
  refine ⟨le_rfl, Nat.zero_le _, List.nodup_nil, fun key => ?_, trivial⟩
  rw [LiveMigration.start, empty]
  exact keyInvariant_start m _ _ key

/-- `keysAt` lists the keys of the original table after each count of committed
events, in ascending order, as the range queries read them. -/
def ListsKeys : Prop :=
  ∀ t ≤ events.length, (keysAt t).Pairwise (· < ·) ∧ ∀ key, key ∈ keysAt t ↔ stateAt m initial events t key ≠ none

/-! ## What each action does -/

theorem migrationStep_commit {state next : LiveMigration κ σ}
    (stepped : migrationStep m index initial events keysAt chunkSize state .commit = some next) :
    state.committed < events.length ∧ next = { state with committed := state.committed + 1 } := by
  simp only [migrationStep] at stepped
  split at stepped
  · next within => exact ⟨within, (Option.some.inj stepped).symm⟩
  · cases stepped

theorem migrationStep_applyEvent {state next : LiveMigration κ σ}
    (stepped : migrationStep m index initial events keysAt chunkSize state .applyEvent = some next) :
    ∃ event ghost, state.applied < state.committed ∧ events[state.applied]? = some event ∧
      applyDMLEvent m index event state.ghost = .ok ghost ∧
      next = { state with applied := state.applied + 1, ghost := ghost } := by
  simp only [migrationStep] at stepped
  split at stepped
  · next within =>
    split at stepped
    · next event found =>
      split at stepped
      · next ghost applied => exact ⟨event, ghost, within, found, applied, (Option.some.inj stepped).symm⟩
      · cases stepped
    · cases stepped
  · cases stepped

/-- What one copy function does, by the branch of `copyStep` it takes: the table's keys
at the time are `keys`, and `copy` inserts the rows of a range into the ghost. -/
inductive CopyTransition (keys : List κ) (copy : List κ → List σ → List σ) (state : LiveMigration κ σ) :
    LiveMigration κ σ → Prop where
  | rangeRead {rangeMin rangeMax : κ} (reading : state.rowCopy = .readMigrationRangeValues)
      (range : readMigrationRangeValues keys = (some rangeMin, some rangeMax)) :
      CopyTransition keys copy state { state with
        rowCopy := .calculateNextIterationRangeEndValues,
        context := some (startContext rangeMin rangeMax chunkSize) }
  | emptyRange (reading : state.rowCopy = .readMigrationRangeValues)
      (empty : ∀ rangeMin rangeMax, readMigrationRangeValues keys = (some rangeMin, some rangeMax) → False) :
      CopyTransition keys copy state { state with rowCopy := .rowCopyComplete }
  | calculated {context next : IterationContext κ}
      (calculating : state.rowCopy = .calculateNextIterationRangeEndValues) (current : state.context = some context)
      (calculated : calculateNextIterationRangeEndValues keys context = (true, next)) :
      CopyTransition keys copy state { state with rowCopy := .applyIterationInsertQuery, context := some next }
  | finished {context next : IterationContext κ}
      (calculating : state.rowCopy = .calculateNextIterationRangeEndValues) (current : state.context = some context)
      (calculated : calculateNextIterationRangeEndValues keys context = (false, next)) :
      CopyTransition keys copy state { state with rowCopy := .rowCopyComplete, context := some next }
  | inserted {context : IterationContext κ} {chunk : Chunk κ}
      (inserting : state.rowCopy = .applyIterationInsertQuery) (current : state.context = some context)
      (range : context.iterationRange = some chunk) :
      CopyTransition keys copy state { state with
        ghost := copy (chunk.rows keys) state.ghost,
        context := some { context with iteration := context.iteration + 1 },
        rowCopy := .calculateNextIterationRangeEndValues }

/-! ## Each copy function keeps the coverage -/

variable {m initial events keysAt chunkSize}

theorem copyTransition_of_copyStep {state next : LiveMigration κ σ}
    (stepped : copyStep m index initial events keysAt chunkSize state = some next) :
    CopyTransition chunkSize (keysAt state.committed) (copyRows m index (stateAt m initial events state.committed))
      state next := by
  unfold copyStep at stepped
  dsimp only at stepped
  split at stepped
  · next reading =>
    split at stepped
    · next rangeMin rangeMax range =>
      cases stepped
      exact .rangeRead reading range
    · next empty =>
      cases stepped
      exact .emptyRange reading empty
  · next context calculating current =>
    split at stepped
    · next following calculated =>
      cases stepped
      exact .calculated calculating current calculated
    · next following calculated =>
      cases stepped
      exact .finished calculating current calculated
  · next context inserting current =>
    obtain ⟨chunk, range, rfl⟩ := Option.map_eq_some_iff.mp stepped
    exact .inserted inserting current range
  · cases stepped

theorem AlwaysPresent.mem_keysAt (listed : ListsKeys m initial events keysAt) {key : κ}
    (always : AlwaysPresent m initial events key) {t : Nat} (bound : t ≤ events.length) : key ∈ keysAt t :=
  ((listed t bound).2 key).mpr (always t bound)

/-- The range read bounds every always-present key: it is present when the range is read. -/
theorem bounds_of_readMigrationRangeValues (listed : ListsKeys m initial events keysAt) {t : Nat}
    (bound : t ≤ events.length) {rangeMin rangeMax : κ}
    (range : readMigrationRangeValues (keysAt t) = (some rangeMin, some rangeMax)) {key : κ}
    (always : AlwaysPresent m initial events key) : rangeMin ≤ key ∧ key ≤ rangeMax := by
  simp only [readMigrationRangeValues, Prod.mk.injEq] at range
  have increasing := (listed t bound).1
  have member := always.mem_keysAt listed bound
  have least := Lib.head_le_of_mem increasing member
  have most := Lib.le_getLast_of_mem increasing member
  rw [(List.head_eq_iff_head?_eq_some _).mpr range.1] at least
  rw [(List.getLast_eq_iff_getLast?_eq_some _).mpr range.2] at most
  exact ⟨least, most⟩

/-- Reading the range of a table with rows starts the iteration at its minimum,
inclusively: no always-present key lies before it. -/
theorem copyCoverage_startContext (listed : ListsKeys m initial events keysAt) {t : Nat} (bound : t ≤ events.length)
    {rangeMin rangeMax : κ} (range : readMigrationRangeValues (keysAt t) = (some rangeMin, some rangeMax))
    (copied : List κ) :
    CopyCoverage m initial events copied .calculateNextIterationRangeEndValues
      (some (startContext rangeMin rangeMax chunkSize)) := by
  have bounds : Bounds m initial events (startContext rangeMin rangeMax chunkSize) :=
    fun _ always => bounds_of_readMigrationRangeValues listed bound range always
  refine ⟨bounds, fun key always rejected => ?_⟩
  have least : rangeMin ≤ key := (bounds key always).1
  simp [IterationContext.nextRangeStart, startContext, rangeStartComparison, least] at rejected

/-- A table read without rows has no always-present key. -/
theorem copyCoverage_emptyRange (listed : ListsKeys m initial events keysAt) {t : Nat} (bound : t ≤ events.length)
    (empty : ∀ rangeMin rangeMax, readMigrationRangeValues (keysAt t) = (some rangeMin, some rangeMax) → False)
    (copied : List κ) (context : Option (IterationContext κ)) :
    CopyCoverage m initial events copied .rowCopyComplete context := by
  intro key always
  obtain ⟨first, rest, listing⟩ := List.exists_cons_of_ne_nil (List.ne_nil_of_mem (always.mem_keysAt listed bound))
  exact (empty first ((first :: rest).getLast (List.cons_ne_nil _ _))
    (by simp [readMigrationRangeValues, listing, List.getLast?_eq_some_getLast])).elim

/-- A calculation that finds a range end keeps the range's start for the insert. -/
theorem copyCoverage_calculate {copied keys : List κ} {context next : IterationContext κ}
    (covers : CopyCoverage m initial events copied .calculateNextIterationRangeEndValues (some context))
    (calculated : calculateNextIterationRangeEndValues keys context = (true, next)) :
    CopyCoverage m initial events copied .applyIterationInsertQuery (some next) := by
  obtain ⟨bounds, covered⟩ := covers
  obtain ⟨lastMin, lastMax, calculation⟩ := calculateNextIterationRangeEndValues_eq keys context
  rw [calculation] at calculated
  split at calculated
  · next rangeEnd _ =>
    cases calculated
    exact ⟨bounds, context.nextRangeStart, rangeEnd, rfl, rfl, covered⟩
  · cases calculated

/-- A calculation that finds no range end finds no key from the range's start to the
maximum: every always-present key lies before the start, and has been copied. -/
theorem copyCoverage_finished (listed : ListsKeys m initial events keysAt) {t : Nat} (bound : t ≤ events.length)
    {copied : List κ} {context next : IterationContext κ}
    (covers : CopyCoverage m initial events copied .calculateNextIterationRangeEndValues (some context))
    (calculated : calculateNextIterationRangeEndValues (keysAt t) context = (false, next)) :
    CopyCoverage m initial events copied .rowCopyComplete (some next) := by
  obtain ⟨bounds, covered⟩ := covers
  obtain ⟨lastMin, lastMax, calculation⟩ := calculateNextIterationRangeEndValues_eq (keysAt t) context
  rw [calculation] at calculated
  split at calculated
  · cases calculated
  · next missing =>
    have empty := filter_eq_nil_of_rangeEnd_none missing
    intro key always
    cases rejected : rangeStartComparison context.nextRangeStart (context.iteration == 0) key
    · exact covered key always rejected
    · have member : key ∈ (keysAt t).filter
          (inIterationRange context.nextRangeStart (context.iteration == 0) context.migrationRangeMaxValues) :=
        List.mem_filter.mpr ⟨always.mem_keysAt listed bound, by simp [inIterationRange, rejected, (bounds key always).2]⟩
      rw [empty] at member
      cases member

/-! ## The invariant over every run -/

theorem CopiedInvariant.live {state : LiveMigration κ σ} {copied : List κ}
    (inv : CopiedInvariant m initial events state copied) : LiveInvariant m initial events state :=
  ⟨inv.replayed, inv.bounded, inv.unique, copied, inv.keys, inv.covers⟩

theorem LiveInvariant.copied {state : LiveMigration κ σ} (inv : LiveInvariant m initial events state) :
    ∃ copied, CopiedInvariant m initial events state copied := by
  obtain ⟨copied, keys, covers⟩ := inv.progress
  exact ⟨copied, inv.replayed, inv.bounded, inv.unique, keys, covers⟩

variable (m initial events) in
theorem LiveInvariant.start : LiveInvariant m initial events (LiveMigration.start : LiveMigration κ σ) :=
  (CopiedInvariant.start m initial events).live

/-- Replaying a committed event keeps the invariant: the replay's step at every key. -/
theorem CopiedInvariant.applyEvent (valid : ValidRun m initial events) {state : LiveMigration κ σ}
    {copied : List κ} (inv : CopiedInvariant m initial events state copied) {event : RowEvent ρ} {ghost : List σ}
    (within : state.applied < state.committed) (found : events[state.applied]? = some event)
    (applied : applyDMLEvent m m.ghostUniqueKey event state.ghost = .ok ghost) :
    CopiedInvariant m initial events { state with applied := state.applied + 1, ghost := ghost } copied := by
  obtain ⟨updated, ran, updatedUnique, updatedView⟩ := applyDMLEvent_view m event inv.unique
  rw [applied] at ran
  injection ran with same
  subst same
  have total : state.applied < events.length := Nat.lt_of_lt_of_le within inv.bounded
  have current : events.get ⟨state.applied, total⟩ = event := by
    simpa [List.getElem?_eq_getElem total] using found
  refine ⟨within, inv.bounded, updatedUnique, fun key => ?_, inv.covers⟩
  rw [updatedView]
  exact keyInvariant_event m _ _ total (current ▸ valid state.applied total)
    (current ▸ stateAt_succ m initial events total) (inv.keys key)

/-- Copying a range keeps the invariant: the copied keys grow by the range's rows, and
the next range starts after its end. -/
theorem CopiedInvariant.insert (keyed : WellKeyed m initial) (listed : ListsKeys m initial events keysAt)
    {state : LiveMigration κ σ} {copied : List κ} (inv : CopiedInvariant m initial events state copied)
    (inserting : state.rowCopy = .applyIterationInsertQuery) {context : IterationContext κ}
    (current : state.context = some context) {chunk : Chunk κ} (range : context.iterationRange = some chunk) :
    CopiedInvariant m initial events { state with
      ghost := copyRows m m.ghostUniqueKey (stateAt m initial events state.committed)
        (chunk.rows (keysAt state.committed)) state.ghost,
      context := some { context with iteration := context.iteration + 1 },
      rowCopy := .calculateNextIterationRangeEndValues } (copied ++ chunk.rows (keysAt state.committed)) := by
  have covers := inv.covers
  rw [inserting, current] at covers
  obtain ⟨bounds, rangeStart, rangeEnd, started, ended, covered⟩ := covers
  have chunkIs : chunk = ⟨rangeStart, context.iteration == 0, rangeEnd⟩ := by
    simp only [IterationContext.iterationRange, started, ended, Option.some.injEq] at range
    exact range.symm
  subst chunkIs
  obtain ⟨copiedUnique, copiedView⟩ :=
    copyRows_view m (wellKeyed_stateAt m keyed events state.committed)
      (Chunk.rows (keysAt state.committed) ⟨rangeStart, context.iteration == 0, rangeEnd⟩) inv.unique
  refine ⟨inv.replayed, inv.bounded, copiedUnique, fun key => ?_, bounds, ?_⟩
  · rw [copiedView]
    exact keyInvariant_copy m _ _ inv.replayed inv.bounded _ (inv.keys key)
  · -- the next range starts after `rangeEnd`: a key it rejects was rejected before, or is in the range
    intro key always rejected
    have upTo : key ≤ rangeEnd := by
      simpa [IterationContext.nextRangeStart, ended, rangeStartComparison] using rejected
    cases before : rangeStartComparison rangeStart (context.iteration == 0) key
    · exact List.mem_append_left _ (covered key always before)
    · refine List.mem_append_right _ (List.mem_filter.mpr ⟨always.mem_keysAt listed inv.bounded, ?_⟩)
      simp [inIterationRange, before, upTo]

/-- The read and the calculations change only where row copy stands. -/
theorem CopiedInvariant.ofCoverage {state next : LiveMigration κ σ} {copied : List κ}
    (inv : CopiedInvariant m initial events state copied)
    (committed : next.committed = state.committed) (applied : next.applied = state.applied)
    (ghost : next.ghost = state.ghost) (covers : CopyCoverage m initial events copied next.rowCopy next.context) :
    CopiedInvariant m initial events next copied := by
  refine ⟨committed ▸ applied ▸ inv.replayed, committed ▸ inv.bounded, ghost ▸ inv.unique, fun key => ?_, covers⟩
  rw [applied, ghost]
  exact inv.keys key

theorem CopiedInvariant.rowCopy (keyed : WellKeyed m initial) (listed : ListsKeys m initial events keysAt)
    {state next : LiveMigration κ σ} {copied : List κ} (inv : CopiedInvariant m initial events state copied)
    (stepped : copyStep m m.ghostUniqueKey initial events keysAt chunkSize state = some next) :
    ∃ extra, CopiedInvariant m initial events next (copied ++ extra) := by
  cases copyTransition_of_copyStep _ stepped with
  | inserted inserting current range => exact ⟨_, inv.insert keyed listed inserting current range⟩
  -- the other branches copy nothing
  | rangeRead _ range =>
    refine ⟨[], ?_⟩
    rw [List.append_nil]
    exact inv.ofCoverage rfl rfl rfl (copyCoverage_startContext listed inv.bounded range copied)
  | emptyRange _ empty =>
    refine ⟨[], ?_⟩
    rw [List.append_nil]
    exact inv.ofCoverage rfl rfl rfl (copyCoverage_emptyRange listed inv.bounded empty copied _)
  | calculated calculating current calculated =>
    refine ⟨[], ?_⟩
    rw [List.append_nil]
    have covers := inv.covers
    rw [calculating, current] at covers
    exact inv.ofCoverage rfl rfl rfl (copyCoverage_calculate covers calculated)
  | finished calculating current calculated =>
    refine ⟨[], ?_⟩
    rw [List.append_nil]
    have covers := inv.covers
    rw [calculating, current] at covers
    exact inv.ofCoverage rfl rfl rfl (copyCoverage_finished listed inv.bounded covers calculated)

theorem CopiedInvariant.step (keyed : WellKeyed m initial) (valid : ValidRun m initial events)
    (listed : ListsKeys m initial events keysAt) {state next : LiveMigration κ σ} {copied : List κ}
    {action : MigrationAction} (inv : CopiedInvariant m initial events state copied)
    (stepped : migrationStep m m.ghostUniqueKey initial events keysAt chunkSize state action = some next) :
    ∃ extra, CopiedInvariant m initial events next (copied ++ extra) := by
  cases action with
  | commit =>
    obtain ⟨within, rfl⟩ := migrationStep_commit m m.ghostUniqueKey initial events keysAt chunkSize stepped
    refine ⟨[], ?_⟩
    rw [List.append_nil]
    exact ⟨Nat.le_succ_of_le inv.replayed, within, inv.unique, inv.keys, inv.covers⟩
  | applyEvent =>
    obtain ⟨event, ghost, within, found, applied, rfl⟩ :=
      migrationStep_applyEvent m m.ghostUniqueKey initial events keysAt chunkSize stepped
    refine ⟨[], ?_⟩
    rw [List.append_nil]
    exact inv.applyEvent valid within found applied
  | rowCopy => exact inv.rowCopy keyed listed stepped

theorem LiveInvariant.step (keyed : WellKeyed m initial) (valid : ValidRun m initial events)
    (listed : ListsKeys m initial events keysAt) {state next : LiveMigration κ σ} {action : MigrationAction}
    (inv : LiveInvariant m initial events state)
    (stepped : migrationStep m m.ghostUniqueKey initial events keysAt chunkSize state action = some next) :
    LiveInvariant m initial events next := by
  obtain ⟨copied, tracked⟩ := inv.copied
  obtain ⟨_, following⟩ := tracked.step keyed valid listed stepped
  exact following.live

theorem LiveInvariant.run (keyed : WellKeyed m initial) (valid : ValidRun m initial events)
    (listed : ListsKeys m initial events keysAt) {actions : List MigrationAction} {final : LiveMigration κ σ}
    (ran : runMigration m m.ghostUniqueKey initial events keysAt chunkSize actions = some final) :
    LiveInvariant m initial events final :=
  Lib.run_invariant (migrationStep m m.ghostUniqueKey initial events keysAt chunkSize) (LiveInvariant m initial events)
    (fun _ _ _ inv stepped => inv.step keyed valid listed stepped) (LiveInvariant.start m initial events) ran

/-- Once row copy is complete and every event is replayed, the invariant pins the ghost
to the original's final state. -/
theorem LiveInvariant.converged {final : LiveMigration κ σ} (inv : LiveInvariant m initial events final)
    (copied : final.rowCopy = .rowCopyComplete) (caughtUp : final.applied = events.length) :
    Mysql.Unique m.ghostUniqueKey final.ghost ∧
      (∀ key, Mysql.lookup m.ghostUniqueKey final.ghost key =
        (stateAt m initial events events.length key).map m.sharedRow) ∧
      ∀ row ∈ final.ghost, ∃ original,
        stateAt m initial events events.length (m.ghostUniqueKey row) = some original ∧ row = m.sharedRow original := by
  obtain ⟨copiedKeys, holds, covers⟩ := inv.progress
  rw [copied] at covers
  rw [caughtUp] at holds
  -- row copy has reached every key that held a row all along
  have exact := keyInvariant_final m _ _ holds fun key always => covers key always
  exact ⟨inv.unique, exact, mem_of_lookup_eq m inv.unique exact⟩

end Live

/-- The keys of the table `insertThenUpdate` runs on, after each count of events. -/
def insertThenUpdateKeys (committed : Nat) : List Nat :=
  if committed = 0 then [] else [5]

theorem insertThenUpdateKeys_listed :
    ListsKeys keyedPairs (fun _ => none) insertThenUpdate insertThenUpdateKeys := by
  intro t bound
  have small : t = 0 ∨ t = 1 ∨ t = 2 := by
    simp only [insertThenUpdate, List.length_cons, List.length_nil] at bound
    omega
  rcases small with rfl | rfl | rfl
  · exact ⟨by simp [insertThenUpdateKeys], fun key => by simp [insertThenUpdateKeys, stateAt]⟩
  all_goals
    refine ⟨by simp [insertThenUpdateKeys], fun key => ?_⟩
    simp [insertThenUpdateKeys, stateAt, insertThenUpdate, RowEvent.apply, keyedPairs, Function.update_apply]

/-- The range is read after the insert, and the row is copied after the update: the copy
brings `(5, 2)`, the replayed `REPLACE` writes `(5, 1)` over it, and the replayed update
brings `(5, 2)` back. -/
def copyBetween : List MigrationAction :=
  [.commit, .rowCopy, .rowCopy, .commit, .rowCopy, .applyEvent, .rowCopy, .applyEvent]

end GhOst.Logic
