import GhOst.Logic.Migration

/-! Resuming a migration (`Migrate` with `--resume`). `Migrator.Checkpoint` records the
iteration range the applier left last, the iteration count, and the binlog coordinates of
the reader, and writes them once the applier has applied every event up to those
coordinates. A resumed gh-ost reads the last checkpoint back, streams the binlog from its
coordinates, and sets the iteration range and count from it; `ReadMigrationRangeValues`
reads the table's range afresh, and `iterateChunks` goes on after the checkpoint's range.
The ghost table is the one the stopped process left.

Over the model of `GhOst.Logic.Migration`, with binlog coordinates counted in events: when
the checkpoint was read in some state of the first run and the events before its position
had been applied by the time that process stopped, every run of the resumed migration that
completes row copy and replays every event leaves the ghost holding exactly the original's
final rows. Two facts carry the invariant across the restart. The per-key invariant holds
for any earlier replay position, since the ghost may only be ahead of it (`KeyInvariant.rewind`).
And the keys up to the end of the range a checkpoint records have been copied, because a
calculation keeps a range only after the insert of that range (`SavedCoverage`). -/

namespace GhOst.Logic

/-- What `Migrator.Checkpoint` records of the migration, in the model's terms: the
position its binlog coordinates stand for, the iteration range the applier left last, and
the iteration count. -/
structure MigrationCheckpoint (κ : Type) where
  lastTrxPosition : Nat
  iterationRangeMin : κ
  iterationRangeMax : κ
  iteration : Nat
  deriving DecidableEq, Repr

section Resume

variable {ρ κ σ : Type} [LinearOrder κ] (m : Migration ρ κ σ) (initial : κ → Option ρ)
  (events : List (RowEvent ρ)) (keysAt : Nat → List κ) (chunkSize : Nat)

/-- `Migrator.Checkpoint` reading the applier while the reader stands at `position`:
none while no range has been left, where the Go code returns "iteration range is empty,
not checkpointing...". -/
def readCheckpoint (position : Nat) (context : IterationContext κ) : Option (MigrationCheckpoint κ) :=
  match context.lastIterationRangeMinValues, context.lastIterationRangeMaxValues with
  | some rangeMin, some rangeMax => some ⟨position, rangeMin, rangeMax, context.iteration⟩
  | _, _ => none

/-- The context of a resumed migration: `Migrate` sets the iteration range and the
iteration count from the checkpoint and `ReadMigrationRangeValues` reads the table's
range; the applier is new and has left no range. -/
def resumeContext (checkpoint : MigrationCheckpoint κ) (rangeMin rangeMax : κ) : IterationContext κ where
  migrationRangeMinValues := rangeMin
  migrationRangeMaxValues := rangeMax
  migrationIterationRangeMinValues := some checkpoint.iterationRangeMin
  migrationIterationRangeMaxValues := some checkpoint.iterationRangeMax
  lastIterationRangeMinValues := none
  lastIterationRangeMaxValues := none
  iteration := checkpoint.iteration
  chunkSize := chunkSize

/-- The migration a resumed gh-ost runs, from the moment `committed` events are in the
binlog: the ghost table the stopped process left, the binlog replayed from the
checkpoint's position, and row copy at its first calculation from the range read then,
or complete at once when the table reads no rows (`MigrationRangeMinValues` nil). -/
def resumeMigration (checkpoint : MigrationCheckpoint κ) (ghost : List σ) (committed : Nat) : LiveMigration κ σ :=
  match readMigrationRangeValues (keysAt committed) with
  | (some rangeMin, some rangeMax) =>
    { committed
      applied := checkpoint.lastTrxPosition
      rowCopy := .calculateNextIterationRangeEndValues
      context := some (resumeContext chunkSize checkpoint rangeMin rangeMax)
      ghost }
  | _ =>
    { committed
      applied := checkpoint.lastTrxPosition
      rowCopy := .rowCopyComplete
      context := none
      ghost }

/-! ## Rewinding the replay -/

omit [LinearOrder κ] in
/-- The per-key invariant holds for every earlier replay position: the state a key's
row stands for is no older than that either, and a key absent all along so far was
absent all along up to it. -/
theorem KeyInvariant.rewind [DecidableEq κ] {states : Nat → κ → Option ρ} {total applied earlier : Nat}
    {view : κ → Option σ} {copied : List κ} {key : κ} (holds : KeyInvariant m states total applied view copied key)
    (rewound : earlier ≤ applied) : KeyInvariant m states total earlier view copied key := by
  rcases holds with ⟨state, newer, bounded, found⟩ | ⟨absent, uncopied, held⟩
  · exact .inl ⟨state, Nat.le_trans rewound newer, bounded, found⟩
  · exact .inr ⟨absent, uncopied, fun i bound => held i (Nat.le_trans bound rewound)⟩

/-! ## What a checkpoint's range rests on -/

variable {m initial events keysAt chunkSize}

theorem CoveredBefore.mono {copied : List κ} {rangeStart : κ} {includeRangeStartValues : Bool}
    (covered : CoveredBefore m initial events copied rangeStart includeRangeStartValues) (extra : List κ) :
    CoveredBefore m initial events (copied ++ extra) rangeStart includeRangeStartValues :=
  fun key always rejected => List.mem_append_left extra (covered key always rejected)

/-- Coverage up to a range's end, the end included, covers a range from it either way. -/
theorem CoveredBefore.of_exclusive {copied : List κ} {rangeStart : κ}
    (covered : CoveredBefore m initial events copied rangeStart false) (includeRangeStartValues : Bool) :
    CoveredBefore m initial events copied rangeStart includeRangeStartValues := by
  intro key always rejected
  apply covered key always
  cases includeRangeStartValues with
  | false => exact rejected
  | true =>
    have before : key < rangeStart := by simpa [rangeStartComparison] using rejected
    simpa [rangeStartComparison] using before.le

variable (m initial events) in
/-- What a checkpoint's range rests on, beside `CopyCoverage`: every always-present key
up to the end of the range the applier left last has been copied; and a calculation that
starts from an iteration range comes after the insert of that range, so it counts an
iteration and excludes the range's end. -/
structure SavedCoverage (copied : List κ) (rowCopy : RowCopyStep) (context : Option (IterationContext κ)) :
    Prop where
  saved : ∀ current lastMax, context = some current → current.lastIterationRangeMaxValues = some lastMax →
    CoveredBefore m initial events copied lastMax false
  counted : rowCopy = .calculateNextIterationRangeEndValues → ∀ current rangeEnd, context = some current →
    current.migrationIterationRangeMaxValues = some rangeEnd → current.iteration ≠ 0

theorem SavedCoverage.mono {copied : List κ} {rowCopy : RowCopyStep} {context : Option (IterationContext κ)}
    (saved : SavedCoverage m initial events copied rowCopy context) (extra : List κ) :
    SavedCoverage m initial events (copied ++ extra) rowCopy context :=
  ⟨fun current lastMax found kept => (saved.saved current lastMax found kept).mono extra, saved.counted⟩

/-- A calculation keeps either the range kept before it or the range it leaves, whose
end the coverage of the calculation reaches, the end included. -/
theorem SavedCoverage.calculate {copied keys : List κ} {context : IterationContext κ}
    (saved : SavedCoverage m initial events copied .calculateNextIterationRangeEndValues (some context))
    (covers : CopyCoverage m initial events copied .calculateNextIterationRangeEndValues (some context))
    {lastMax : κ}
    (kept : (calculateNextIterationRangeEndValues keys context).2.lastIterationRangeMaxValues = some lastMax) :
    CoveredBefore m initial events copied lastMax false := by
  rcases lastIterationRangeMaxValues_calculate keys context kept with before | left
  · exact saved.saved context lastMax rfl before
  · -- the range left was the one just copied: the calculation starts at its end, exclusively
    have counted : (context.iteration == 0) = false := by
      simpa using saved.counted rfl context lastMax rfl left
    have start : context.nextRangeStart = lastMax := by simp [IterationContext.nextRangeStart, left]
    have covered := covers.2
    rwa [start, counted] at covered

variable (m initial events chunkSize) in
theorem SavedCoverage.start :
    SavedCoverage m initial events [] (LiveMigration.start : LiveMigration κ σ).rowCopy
      (LiveMigration.start : LiveMigration κ σ).context :=
  ⟨fun _ _ found => (nomatch found), fun reading => (nomatch reading)⟩

/-- Each copy function keeps what a checkpoint's range rests on. -/
theorem SavedCoverage.rowCopy {state next : LiveMigration κ σ} {copied : List κ}
    (inv : CopiedInvariant m initial events state copied)
    (saved : SavedCoverage m initial events copied state.rowCopy state.context)
    (stepped : copyStep m m.ghostUniqueKey initial events keysAt chunkSize state = some next) :
    SavedCoverage m initial events copied next.rowCopy next.context := by
  cases copyTransition_of_copyStep _ stepped with
  | rangeRead _ _ =>
    refine ⟨fun current lastMax found kept => ?_, fun _ current rangeEnd found ended => ?_⟩
    · cases found
      cases kept
    · cases found
      cases ended
  | emptyRange _ _ => exact ⟨saved.saved, fun complete => nomatch complete⟩
  | calculated calculating current calculated =>
    rw [calculating, current] at saved
    have covers := inv.covers
    rw [calculating, current] at covers
    refine ⟨fun following lastMax found kept => ?_, fun inserting => nomatch inserting⟩
    cases found
    exact saved.calculate covers (by rw [calculated]; exact kept)
  | finished calculating current calculated =>
    rw [calculating, current] at saved
    have covers := inv.covers
    rw [calculating, current] at covers
    refine ⟨fun following lastMax found kept => ?_, fun complete => nomatch complete⟩
    cases found
    exact saved.calculate covers (by rw [calculated]; exact kept)
  | inserted _ current _ =>
    refine ⟨fun following lastMax found kept => ?_, fun _ following rangeEnd found _ => ?_⟩
    · cases found
      exact saved.saved _ lastMax current kept
    · cases found
      exact Nat.succ_ne_zero _

theorem SavedCoverage.step {state next : LiveMigration κ σ} {copied : List κ} {action : MigrationAction}
    (inv : CopiedInvariant m initial events state copied)
    (saved : SavedCoverage m initial events copied state.rowCopy state.context)
    (stepped : migrationStep m m.ghostUniqueKey initial events keysAt chunkSize state action = some next) :
    SavedCoverage m initial events copied next.rowCopy next.context := by
  cases action with
  | commit =>
    obtain ⟨_, rfl⟩ := migrationStep_commit m m.ghostUniqueKey initial events keysAt chunkSize stepped
    exact saved
  | applyEvent =>
    obtain ⟨_, _, _, _, _, rfl⟩ := migrationStep_applyEvent m m.ghostUniqueKey initial events keysAt chunkSize stepped
    exact saved
  | rowCopy => exact saved.rowCopy inv stepped

/-- Along every run the copied keys only grow, and the invariant and what a checkpoint's
range rests on hold for them. -/
theorem SavedCoverage.run (keyed : WellKeyed m initial) (valid : ValidRun m initial events)
    (listed : ListsKeys m initial events keysAt) {state final : LiveMigration κ σ} {copied : List κ}
    {actions : List MigrationAction} (inv : CopiedInvariant m initial events state copied)
    (saved : SavedCoverage m initial events copied state.rowCopy state.context)
    (ran : Lib.run (migrationStep m m.ghostUniqueKey initial events keysAt chunkSize) state actions = some final) :
    ∃ extra, CopiedInvariant m initial events final (copied ++ extra) ∧
      SavedCoverage m initial events (copied ++ extra) final.rowCopy final.context := by
  refine Lib.run_invariant _ (fun reached => ∃ extra, CopiedInvariant m initial events reached (copied ++ extra) ∧
      SavedCoverage m initial events (copied ++ extra) reached.rowCopy reached.context) ?_
    ⟨[], by rw [List.append_nil]; exact ⟨inv, saved⟩⟩ ran
  rintro reached action following ⟨extra, holds, keeps⟩ stepped
  obtain ⟨more, next⟩ := holds.step keyed valid listed stepped
  refine ⟨extra ++ more, ?_, ?_⟩
  · rwa [← List.append_assoc]
  · rw [← List.append_assoc]
    exact (keeps.step holds stepped).mono more

/-! ## The resumed migration -/

/-- The resumed migration starts in the invariant, for the keys the stopped process had
copied: the replay restarts no later than the ghost stands, and row copy restarts after
keys that were all copied. -/
theorem CopiedInvariant.resume (listed : ListsKeys m initial events keysAt) {crashed : LiveMigration κ σ}
    {copied : List κ} (inv : CopiedInvariant m initial events crashed copied) {checkpoint : MigrationCheckpoint κ}
    (covered : CoveredBefore m initial events copied checkpoint.iterationRangeMax false)
    (caughtUp : checkpoint.lastTrxPosition ≤ crashed.applied) {committed : Nat}
    (restart : crashed.committed ≤ committed) (bounded : committed ≤ events.length) :
    CopiedInvariant m initial events (resumeMigration keysAt chunkSize checkpoint crashed.ghost committed) copied := by
  have replayed : checkpoint.lastTrxPosition ≤ committed :=
    Nat.le_trans caughtUp (Nat.le_trans inv.replayed restart)
  have keys : ∀ key, KeyInvariant m (stateAt m initial events) events.length checkpoint.lastTrxPosition
      (Mysql.lookup m.ghostUniqueKey crashed.ghost) copied key :=
    fun key => (inv.keys key).rewind m caughtUp
  unfold resumeMigration
  split
  · next rangeMin rangeMax range =>
    refine ⟨replayed, bounded, inv.unique, keys, ?_, ?_⟩
    · exact fun _ always => bounds_of_readMigrationRangeValues listed bounded range always
    · exact covered.of_exclusive _
  · next empty =>
    exact ⟨replayed, bounded, inv.unique, keys, copyCoverage_emptyRange listed bounded empty copied none⟩

end Resume

/-- A migration resumed from a checkpoint converges when the ghost's unique index is the
migration key. For every valid run of events on the original table, whose keys the range
queries read in index order: take any run of the first process, a checkpoint read in
some state of it at a binlog position whose events the applier had applied by the time
the process stopped, and a resumed process started at any later point of the binlog with
the ghost table the first one left. Every interleaving of the resumed process's commits,
replays and copy functions that completes row copy and replays every event leaves the
ghost's index unique and the ghost holding exactly one row per key of the original's
final state, that row's shared columns. -/
theorem resume_converges {ρ κ σ : Type} [LinearOrder κ] (m : Migration ρ κ σ) {initial : κ → Option ρ}
    (keyed : WellKeyed m initial) {events : List (RowEvent ρ)} (valid : ValidRun m initial events)
    {keysAt : Nat → List κ} (listed : ListsKeys m initial events keysAt) (chunkSize : Nat)
    {beforeCheckpoint beforeStop resumed : List MigrationAction} {checkpointed stopped final : LiveMigration κ σ}
    {context : IterationContext κ} {position committed : Nat} {checkpoint : MigrationCheckpoint κ}
    (toCheckpoint : runMigration m m.ghostUniqueKey initial events keysAt chunkSize beforeCheckpoint = some checkpointed)
    (reading : checkpointed.context = some context) (recorded : readCheckpoint position context = some checkpoint)
    (toStop : Lib.run (migrationStep m m.ghostUniqueKey initial events keysAt chunkSize) checkpointed beforeStop =
      some stopped)
    (applied : position ≤ stopped.applied) (restart : stopped.committed ≤ committed)
    (bounded : committed ≤ events.length)
    (ran : Lib.run (migrationStep m m.ghostUniqueKey initial events keysAt chunkSize)
      (resumeMigration keysAt chunkSize checkpoint stopped.ghost committed) resumed = some final)
    (copied : final.rowCopy = .rowCopyComplete) (caughtUp : final.applied = events.length) :
    Mysql.Unique m.ghostUniqueKey final.ghost ∧
      (∀ key, Mysql.lookup m.ghostUniqueKey final.ghost key =
        (stateAt m initial events events.length key).map m.sharedRow) ∧
      ∀ row ∈ final.ghost, ∃ original,
        stateAt m initial events events.length (m.ghostUniqueKey row) = some original ∧ row = m.sharedRow original := by
  -- the checkpoint's fields, as `readCheckpoint` took them
  obtain ⟨rangeMin, rangeMax, savedMin, savedMax, rfl⟩ :
      ∃ rangeMin rangeMax, context.lastIterationRangeMinValues = some rangeMin ∧
        context.lastIterationRangeMaxValues = some rangeMax ∧
        checkpoint = ⟨position, rangeMin, rangeMax, context.iteration⟩ := by
    unfold readCheckpoint at recorded
    split at recorded
    · next rangeMin rangeMax savedMin savedMax => exact ⟨rangeMin, rangeMax, savedMin, savedMax, (Option.some.inj recorded).symm⟩
    · cases recorded
  -- the first process up to the checkpoint: the keys up to its range's end are copied
  obtain ⟨atCheckpoint, checkpointInv, checkpointSaved⟩ :=
    SavedCoverage.run keyed valid listed (CopiedInvariant.start m initial events) (SavedCoverage.start m initial events)
      toCheckpoint
  have covered := checkpointSaved.saved context rangeMax reading savedMax
  -- the first process up to its stop: the copied keys only grow
  obtain ⟨afterwards, stoppedInv, -⟩ := SavedCoverage.run keyed valid listed checkpointInv checkpointSaved toStop
  have resumedInv : CopiedInvariant m initial events
      (resumeMigration keysAt chunkSize ⟨position, rangeMin, rangeMax, context.iteration⟩ stopped.ghost committed) _ :=
    stoppedInv.resume listed (covered.mono afterwards) applied restart bounded
  -- the resumed process: the invariant over its run
  have finalInv : LiveInvariant m initial events final :=
    Lib.run_invariant _ (LiveInvariant m initial events) (fun _ _ _ inv stepped => inv.step keyed valid listed stepped)
      resumedInv.live ran
  exact finalInv.converged copied caughtUp

/-- The first process reads key 5 after both events, copies `(5, 2)`, finds no further
range, is checkpointed at position 0, replays the insert and stops. The resumed process
finds no range after the checkpoint's, and replays both events again from position 0. -/
def copyThenCheckpoint : List MigrationAction :=
  [.commit, .commit, .rowCopy, .rowCopy, .rowCopy, .rowCopy]

theorem resume_converges_replaying_again : ∃ checkpointed stopped final context checkpoint,
    runMigration keyedPairs keyedPairs.ghostUniqueKey (fun _ => none) insertThenUpdate insertThenUpdateKeys 1
      copyThenCheckpoint = some checkpointed ∧
    checkpointed.context = some context ∧ readCheckpoint 0 context = some checkpoint ∧
    Lib.run (migrationStep keyedPairs keyedPairs.ghostUniqueKey (fun _ => none) insertThenUpdate insertThenUpdateKeys 1)
      checkpointed [.applyEvent] = some stopped ∧ stopped.applied = 1 ∧
    Lib.run (migrationStep keyedPairs keyedPairs.ghostUniqueKey (fun _ => none) insertThenUpdate insertThenUpdateKeys 1)
      (resumeMigration insertThenUpdateKeys 1 checkpoint stopped.ghost 2) [.rowCopy, .applyEvent, .applyEvent] =
        some final ∧
    final.rowCopy = .rowCopyComplete ∧ final.applied = insertThenUpdate.length ∧
    Mysql.Unique keyedPairs.ghostUniqueKey final.ghost ∧
      (∀ key, Mysql.lookup keyedPairs.ghostUniqueKey final.ghost key =
        (stateAt keyedPairs (fun _ => none) insertThenUpdate insertThenUpdate.length key).map keyedPairs.sharedRow) ∧
      ∀ row ∈ final.ghost, ∃ original,
        stateAt keyedPairs (fun _ => none) insertThenUpdate insertThenUpdate.length (keyedPairs.ghostUniqueKey row) =
          some original ∧ row = keyedPairs.sharedRow original := by
  have keyed : WellKeyed keyedPairs (fun _ => none) := fun _ _ found => nomatch found
  refine ⟨?checkpointed, ?stopped, ?final, ?context, ?checkpoint, ?toCheckpoint, ?reading, ?recorded, ?toStop, ?stoppedAt, ?ran, ?copied, ?caughtUp,
    resume_converges keyedPairs keyed insertThenUpdate_valid insertThenUpdateKeys_listed 1 ?toCheckpoint ?reading
      ?recorded ?toStop (Nat.zero_le _) ?restart ?bounded ?ran ?copied ?caughtUp⟩
  -- each run is evaluated in turn, which fixes the states the later goals name
  case toCheckpoint => rfl
  case reading => rfl
  case recorded => rfl
  case toStop => rfl
  case stoppedAt => rfl
  case ran => rfl
  case copied => rfl
  case caughtUp => rfl
  case restart => decide
  case bounded => decide

end GhOst.Logic
