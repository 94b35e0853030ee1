import GhOst.Logic.CutOverSafety

/-! The two-step cut-over, `--cut-over=two-step`. `Migrator.cutOverTwoStep` runs its
operations one after another, each under `retryOperation`: `LockOriginalTable` takes
`LOCK TABLES original WRITE` on the applier's `singletonDB`; `waitForEventsUpToLock`
writes a new `AllEventsUpToLockProcessed` marker and waits for the applier to reach it;
`CreateTriggersOnGhost`, when there are triggers to migrate; `SwapTablesQuickAndBumpy`
runs `ALTER TABLE original RENAME _del` on `singletonDB` and then
`ALTER TABLE _gho RENAME original` on `db`; and `UnlockTables`. A failed statement sends
its operation back to the operation's first statement for the next attempt; once
`MaxRetries()` attempts have failed, `retryOperation` sends the error to `PanicAbort` and
the process exits.

`singletonDB` is a pool of one connection: a connection that dies takes its table lock
with it, and the pool opens a new one for the next statement (the exit of the process
closes it the same way). Clients write the table that the original name names: the
lock holds off writes to the original table, and a write to a name that names no table
fails and commits nothing.

However the statements fail and the parties interleave, a nil return comes with the
tables swapped and the lock released, and the tables are never anywhere but before,
between or after the two ALTERs. While the lock session's connection lives, a nil
return follows a clean cut-over; once it has died, a write after the marker can slip
through. And once the second ALTER of an attempt fails, the cut-over cannot recover:
each later attempt fails at the first ALTER, and the process exits with no table under
the original name. -/

namespace GhOst.Logic

/-! ## The tables -/

/-- Between the two ALTERs: the original table under `_del`, the ghost table under
`_gho`, and no table under the original name. -/
def Catalog.halfSwapped : Catalog := ⟨none, some .originalTable, some .ghostTable⟩

/-- `alter table original rename _del`: the original name must name a table, and `_del`
none. -/
def Catalog.renameOriginal (catalog : Catalog) : Option Catalog :=
  match catalog.original, catalog.old with
  | some table, none => some { catalog with original := none, old := some table }
  | _, _ => none

/-- `alter table _gho rename original`: `_gho` must name a table, and the original name
none. -/
def Catalog.renameGhost (catalog : Catalog) : Option Catalog :=
  match catalog.ghost, catalog.original with
  | some table, none => some { catalog with original := some table, ghost := none }
  | _, _ => none

@[simp] theorem Catalog.renameOriginal_initial : Catalog.initial.renameOriginal = some .halfSwapped := rfl

@[simp] theorem Catalog.renameOriginal_halfSwapped : Catalog.halfSwapped.renameOriginal = none := rfl

@[simp] theorem Catalog.renameGhost_halfSwapped : Catalog.halfSwapped.renameGhost = some .swapped := rfl

/-! ## The cut-over -/

/-- Where `cutOverTwoStep` is: the statement or wait it runs next, with the number of
failed attempts at its operation. -/
inductive TwoStepCutOverStep where
  | lockOriginalTable (attempts : Nat)
  /-- `waitForEventsUpToLock`: `WriteChangelogState` of a new marker -/
  | writeMarker (attempts : Nat)
  /-- `waitForEventsUpToLock`: the applier reaches this attempt's marker, or the timer fires -/
  | awaitEventsUpToLock (attempts : Nat)
  | createTriggersOnGhost (attempts : Nat)
  /-- `SwapTablesQuickAndBumpy`: `alter table original rename _del`, on `singletonDB` -/
  | renameOriginal (attempts : Nat)
  /-- `SwapTablesQuickAndBumpy`: `alter table _gho rename original`, on `db` -/
  | renameGhost (attempts : Nat)
  | unlockTables (attempts : Nat)
  /-- `cutOverTwoStep` has returned nil -/
  | returned
  /-- the attempts at an operation ran out: `PanicAbort <- err`, and the process exits -/
  | panicAbort
  deriving DecidableEq, Repr

/-- The cut-over and what it observes of the server. -/
structure TwoStepCutOverState where
  migrator : TwoStepCutOverStep
  catalog : Catalog
  /-- `singletonDB`'s `LOCK TABLES original WRITE`, which stays on the original table
  when the table is renamed -/
  tableLocked : Bool
  history : List ServerEvent
  deriving DecidableEq, Repr

/-- What happens next. -/
inductive TwoStepCutOverAction where
  /-- the migrator's next statement or wait, and whether it succeeds -/
  | migrator (succeeds : Bool)
  /-- `singletonDB`'s connection dies, and the server releases its lock -/
  | killLockSession
  /-- a client writes the table under the original name -/
  | clientDML
  deriving DecidableEq, Repr

/-- The migrator's own actions, which use up its attempts. -/
def TwoStepCutOverAction.isMigrator : TwoStepCutOverAction → Bool
  | .migrator _ => true
  | _ => false

section Migrator

variable (maxRetries : Nat)

/-- `retryOperation`'s loop at attempt `attempts`, counted from zero: the attempt while
fewer than `MaxRetries()` have been made, and `PanicAbort` after. -/
def retryOperationAttempt (attempts : Nat) (operation : Nat → TwoStepCutOverStep) : TwoStepCutOverStep :=
  if attempts < maxRetries then operation attempts else .panicAbort

/-- Where a failed statement leads: `retryOperation`'s next attempt at its operation,
from the operation's first statement. -/
def TwoStepCutOverStep.retry : TwoStepCutOverStep → TwoStepCutOverStep
  | .lockOriginalTable attempts => retryOperationAttempt maxRetries (attempts + 1) .lockOriginalTable
  | .writeMarker attempts | .awaitEventsUpToLock attempts =>
    retryOperationAttempt maxRetries (attempts + 1) .writeMarker
  | .createTriggersOnGhost attempts => retryOperationAttempt maxRetries (attempts + 1) .createTriggersOnGhost
  | .renameOriginal attempts | .renameGhost attempts =>
    retryOperationAttempt maxRetries (attempts + 1) .renameOriginal
  | .unlockTables attempts => retryOperationAttempt maxRetries (attempts + 1) .unlockTables
  | .returned => .returned
  | .panicAbort => .panicAbort

theorem TwoStepCutOverStep.retry_renameOriginal (attempts : Nat) :
    (TwoStepCutOverStep.renameOriginal attempts).retry maxRetries =
      retryOperationAttempt maxRetries (attempts + 1) .renameOriginal :=
  rfl

/-- A failed second ALTER sends the next attempt back to the first. -/
theorem TwoStepCutOverStep.retry_renameGhost (attempts : Nat) :
    (TwoStepCutOverStep.renameGhost attempts).retry maxRetries =
      retryOperationAttempt maxRetries (attempts + 1) .renameOriginal :=
  rfl

/-- `cutOverTwoStep` as it starts: the first attempt at `LockOriginalTable`. -/
def TwoStepCutOverState.start : TwoStepCutOverState :=
  ⟨retryOperationAttempt maxRetries 0 .lockOriginalTable, .initial, false, []⟩

variable (createTriggers : Bool)

/-- `cutOverTwoStep`, one statement or wait; `createTriggers` is `IncludeTriggers` with
triggers to create. -/
def twoStepMigratorStep (state : TwoStepCutOverState) (succeeds : Bool) : Option TwoStepCutOverState :=
  let failed := { state with migrator := state.migrator.retry maxRetries }
  match state.migrator with
  | .lockOriginalTable _ =>
    some (if succeeds then
      { state with tableLocked := true, migrator := retryOperationAttempt maxRetries 0 .writeMarker }
      else failed)
  | .writeMarker attempts =>
    some (if succeeds then
      { state with history := state.history ++ [.marker], migrator := .awaitEventsUpToLock attempts }
      else failed)
  | .awaitEventsUpToLock _ =>
    some (if succeeds then
      let operation := if createTriggers then .createTriggersOnGhost else .renameOriginal
      { state with migrator := retryOperationAttempt maxRetries 0 operation }
      else failed)
  | .createTriggersOnGhost _ =>
    some (if succeeds then { state with migrator := retryOperationAttempt maxRetries 0 .renameOriginal }
      else failed)
  | .renameOriginal attempts =>
    match succeeds, state.catalog.renameOriginal with
    | true, some catalog =>
      some { state with catalog, history := state.history ++ [.rename], migrator := .renameGhost attempts }
    | _, _ => some failed
  | .renameGhost _ =>
    -- a failure sends the next attempt back to the first ALTER
    match succeeds, state.catalog.renameGhost with
    | true, some catalog =>
      some { state with catalog, migrator := retryOperationAttempt maxRetries 0 .unlockTables }
    | _, _ => some failed
  | .unlockTables _ =>
    some (if succeeds then { state with tableLocked := false, migrator := .returned } else failed)
  | .returned | .panicAbort => none

/-- A client's write to the table the original name names: the lock holds it off the
original table, and with no table under the name it fails and commits nothing. -/
def twoStepClientWrite (state : TwoStepCutOverState) : Option TwoStepCutOverState :=
  match state.catalog.original with
  | some .originalTable =>
    if state.tableLocked then none
    else some { state with history := state.history ++ [.dml .originalTable] }
  | some table => some { state with history := state.history ++ [.dml table] }
  | none => none

/-- One action. -/
def twoStepCutOverStep (state : TwoStepCutOverState) : TwoStepCutOverAction → Option TwoStepCutOverState
  | .migrator succeeds => twoStepMigratorStep maxRetries createTriggers state succeeds
  | .killLockSession => some { state with tableLocked := false }
  | .clientDML => twoStepClientWrite state

/-- The state a schedule of actions leads to from the start. -/
def runTwoStepCutOver (actions : List TwoStepCutOverAction) : Option TwoStepCutOverState :=
  Lib.run (twoStepCutOverStep maxRetries createTriggers) (TwoStepCutOverState.start maxRetries) actions

end Migrator

/-- How the two-step cut-over can end: nil, with the tables swapped and the lock
released; or `PanicAbort`, with the tables as they were, between the two ALTERs, or
swapped. -/
def TwoStepCutOverOutcome (state : TwoStepCutOverState) : Prop :=
  (state.migrator = .returned ∧ state.catalog = .swapped ∧ state.tableLocked = false) ∨
  (state.migrator = .panicAbort ∧
    (state.catalog = .initial ∨ state.catalog = .halfSwapped ∨ state.catalog = .swapped))

/-! ## What one step does -/

/-- What one statement or wait of `cutOverTwoStep` does: a constructor for each
statement that succeeds, and one for a failed attempt. -/
inductive TwoStepMove (maxRetries : Nat) (createTriggers : Bool) (state : TwoStepCutOverState) :
    TwoStepCutOverState → Prop where
  | locked {attempts : Nat} (position : state.migrator = .lockOriginalTable attempts) :
    TwoStepMove maxRetries createTriggers state
      { state with tableLocked := true, migrator := retryOperationAttempt maxRetries 0 .writeMarker }
  | marked {attempts : Nat} (position : state.migrator = .writeMarker attempts) :
    TwoStepMove maxRetries createTriggers state
      { state with history := state.history ++ [.marker], migrator := .awaitEventsUpToLock attempts }
  | caughtUp {attempts : Nat} (position : state.migrator = .awaitEventsUpToLock attempts) :
    TwoStepMove maxRetries createTriggers state
      { state with
          migrator := retryOperationAttempt maxRetries 0 (if createTriggers then .createTriggersOnGhost else .renameOriginal) }
  | triggersCreated {attempts : Nat} (position : state.migrator = .createTriggersOnGhost attempts) :
    TwoStepMove maxRetries createTriggers state
      { state with migrator := retryOperationAttempt maxRetries 0 .renameOriginal }
  | originalRenamed {attempts : Nat} {catalog : Catalog} (position : state.migrator = .renameOriginal attempts)
      (renamed : state.catalog.renameOriginal = some catalog) :
    TwoStepMove maxRetries createTriggers state
      { state with catalog, history := state.history ++ [.rename], migrator := .renameGhost attempts }
  | ghostRenamed {attempts : Nat} {catalog : Catalog} (position : state.migrator = .renameGhost attempts)
      (renamed : state.catalog.renameGhost = some catalog) :
    TwoStepMove maxRetries createTriggers state
      { state with catalog, migrator := retryOperationAttempt maxRetries 0 .unlockTables }
  | unlocked {attempts : Nat} (position : state.migrator = .unlockTables attempts) :
    TwoStepMove maxRetries createTriggers state { state with tableLocked := false, migrator := .returned }
  | failed (running : state.migrator ≠ .returned ∧ state.migrator ≠ .panicAbort) :
    TwoStepMove maxRetries createTriggers state { state with migrator := state.migrator.retry maxRetries }

section Moves

variable {maxRetries : Nat} {createTriggers : Bool} {state next : TwoStepCutOverState}

theorem twoStepMove_of_step {succeeds : Bool}
    (stepped : twoStepMigratorStep maxRetries createTriggers state succeeds = some next) :
    TwoStepMove maxRetries createTriggers state next := by
  have running : ∀ {attempts : Nat} {operation : Nat → TwoStepCutOverStep},
      state.migrator = operation attempts → (∀ attempts, operation attempts ≠ .returned) →
      (∀ attempts, operation attempts ≠ .panicAbort) → state.migrator ≠ .returned ∧ state.migrator ≠ .panicAbort :=
    fun position notReturned notAborted => position ▸ ⟨notReturned _, notAborted _⟩
  unfold twoStepMigratorStep at stepped
  split at stepped
  next position =>
    cases succeeds <;> cases stepped
    · exact .failed (running position (by simp) (by simp))
    · exact .locked position
  next position =>
    cases succeeds <;> cases stepped
    · exact .failed (running position (by simp) (by simp))
    · exact .marked position
  next position =>
    cases succeeds <;> cases stepped
    · exact .failed (running position (by simp) (by simp))
    · exact .caughtUp position
  next position =>
    cases succeeds <;> cases stepped
    · exact .failed (running position (by simp) (by simp))
    · exact .triggersCreated position
  next position =>
    split at stepped
    next renamed =>
      cases stepped
      exact .originalRenamed position renamed
    next => cases stepped; exact .failed (running position (by simp) (by simp))
  next position =>
    split at stepped
    next renamed =>
      cases stepped
      exact .ghostRenamed position renamed
    next => cases stepped; exact .failed (running position (by simp) (by simp))
  next position =>
    cases succeeds <;> cases stepped
    · exact .failed (running position (by simp) (by simp))
    · exact .unlocked position
  all_goals cases stepped

/-- A statement or wait that fails leads to the next attempt at its operation. -/
theorem twoStepMigratorStep_false (running : state.migrator ≠ .returned ∧ state.migrator ≠ .panicAbort) :
    twoStepMigratorStep maxRetries createTriggers state false =
      some { state with migrator := state.migrator.retry maxRetries } := by
  obtain ⟨migrator, catalog, tableLocked, history⟩ := state
  cases migrator
  case returned => exact absurd rfl running.1
  case panicAbort => exact absurd rfl running.2
  all_goals rfl

theorem twoStepClientWrite_eq (stepped : twoStepClientWrite state = some next) :
    ∃ table, state.catalog.original = some table ∧ (table = .originalTable → state.tableLocked = false) ∧
      next = { state with history := state.history ++ [.dml table] } := by
  unfold twoStepClientWrite at stepped
  split at stepped
  next found =>
    split at stepped
    · cases stepped
    next unlocked =>
      cases stepped
      exact ⟨_, found, fun _ => by simpa using unlocked, rfl⟩
  next table other found =>
    cases stepped
    exact ⟨table, found, fun same => absurd same other, rfl⟩
  next => cases stepped

theorem retryOperationAttempt_cases (maxRetries attempts : Nat) (operation : Nat → TwoStepCutOverStep) :
    (retryOperationAttempt maxRetries attempts operation = operation attempts ∧ attempts < maxRetries) ∨
      retryOperationAttempt maxRetries attempts operation = .panicAbort := by
  unfold retryOperationAttempt
  split
  next fits => exact .inl ⟨rfl, fits⟩
  next => exact .inr rfl

theorem retryOperationAttempt_ne_returned {attempts : Nat} {operation : Nat → TwoStepCutOverStep}
    (never : operation attempts ≠ .returned) : retryOperationAttempt maxRetries attempts operation ≠ .returned := by
  rcases retryOperationAttempt_cases maxRetries attempts operation with ⟨attempt, -⟩ | abort
  · rwa [attempt]
  · rw [abort]
    exact nofun

/-- Only a cut-over that has returned is at `returned` after a failure. -/
theorem TwoStepCutOverStep.retry_ne_returned {step : TwoStepCutOverStep} (running : step ≠ .returned) :
    step.retry maxRetries ≠ .returned := by
  cases step
  case returned => exact absurd rfl running
  case panicAbort => exact nofun
  all_goals exact retryOperationAttempt_ne_returned nofun

end Moves

/-! ## Where the tables can be -/

/-- The tables at each position of `cutOverTwoStep`. -/
def CatalogAt : TwoStepCutOverStep → Catalog → Prop
  | .lockOriginalTable _, catalog | .writeMarker _, catalog | .awaitEventsUpToLock _, catalog
  | .createTriggersOnGhost _, catalog => catalog = .initial
  | .renameOriginal _, catalog => catalog = .initial ∨ catalog = .halfSwapped
  | .renameGhost _, catalog => catalog = .halfSwapped
  | .unlockTables _, catalog | .returned, catalog => catalog = .swapped
  | .panicAbort, catalog => catalog = .initial ∨ catalog = .halfSwapped ∨ catalog = .swapped

/-- The attempt a position is at is one that `retryOperation` makes. -/
def WithinRetries (maxRetries : Nat) : TwoStepCutOverStep → Prop
  | .lockOriginalTable attempts | .writeMarker attempts | .awaitEventsUpToLock attempts
  | .createTriggersOnGhost attempts | .renameOriginal attempts | .renameGhost attempts
  | .unlockTables attempts => attempts < maxRetries
  | .returned | .panicAbort => True

/-- What holds in every reachable state, whatever fails and whenever the lock is lost. -/
structure TwoStepInvariant (maxRetries : Nat) (state : TwoStepCutOverState) : Prop where
  catalog : CatalogAt state.migrator state.catalog
  retries : WithinRetries maxRetries state.migrator
  unlocked : state.migrator = .returned → state.tableLocked = false

section Invariant

variable {maxRetries : Nat} {createTriggers : Bool} {state next : TwoStepCutOverState}

theorem catalogAt_retryOperationAttempt {catalog : Catalog} {attempts : Nat} {operation : Nat → TwoStepCutOverStep}
    (tried : CatalogAt (operation attempts) catalog) (aborted : CatalogAt .panicAbort catalog) :
    CatalogAt (retryOperationAttempt maxRetries attempts operation) catalog := by
  rcases retryOperationAttempt_cases maxRetries attempts operation with ⟨attempt, -⟩ | abort
  · rwa [attempt]
  · rwa [abort]

theorem withinRetries_retryOperationAttempt {attempts : Nat} {operation : Nat → TwoStepCutOverStep}
    (fits : attempts < maxRetries → WithinRetries maxRetries (operation attempts)) :
    WithinRetries maxRetries (retryOperationAttempt maxRetries attempts operation) := by
  rcases retryOperationAttempt_cases maxRetries attempts operation with ⟨attempt, below⟩ | abort
  · rw [attempt]
    exact fits below
  · rw [abort]
    trivial

/-- A failed attempt leaves the tables where they were, and the next attempt, if there
is one, sees them there. -/
theorem catalogAt_retry {catalog : Catalog} {step : TwoStepCutOverStep} (at_ : CatalogAt step catalog) :
    CatalogAt (step.retry maxRetries) catalog := by
  cases step
  case returned | panicAbort => exact at_
  case lockOriginalTable | writeMarker | awaitEventsUpToLock | createTriggersOnGhost =>
    exact catalogAt_retryOperationAttempt at_ (.inl at_)
  case renameOriginal => exact catalogAt_retryOperationAttempt at_ (Or.imp_right Or.inl at_)
  -- the next attempt is back at the first ALTER, with the original name still empty
  case renameGhost => exact catalogAt_retryOperationAttempt (.inr at_) (.inr (.inl at_))
  case unlockTables => exact catalogAt_retryOperationAttempt at_ (.inr (.inr at_))

theorem withinRetries_retry (step : TwoStepCutOverStep) :
    WithinRetries maxRetries (step.retry maxRetries) := by
  cases step
  case returned | panicAbort => trivial
  all_goals exact withinRetries_retryOperationAttempt id

theorem TwoStepInvariant.start : TwoStepInvariant maxRetries (TwoStepCutOverState.start maxRetries) where
  catalog := catalogAt_retryOperationAttempt rfl (.inl rfl)
  retries := withinRetries_retryOperationAttempt id
  unlocked := by
    intro returned
    rcases retryOperationAttempt_cases maxRetries 0 .lockOriginalTable with ⟨attempt, -⟩ | abort
    · simp [TwoStepCutOverState.start, attempt] at returned
    · simp [TwoStepCutOverState.start, abort] at returned

theorem TwoStepInvariant.migratorStep (inv : TwoStepInvariant maxRetries state) {succeeds : Bool}
    (stepped : twoStepMigratorStep maxRetries createTriggers state succeeds = some next) :
    TwoStepInvariant maxRetries next := by
  obtain ⟨catalog, retries, unlocked⟩ := inv
  cases twoStepMove_of_step stepped with
  | locked position =>
    rw [position] at catalog
    refine ⟨catalogAt_retryOperationAttempt catalog (.inl catalog), withinRetries_retryOperationAttempt id, ?_⟩
    rcases retryOperationAttempt_cases maxRetries 0 .writeMarker with ⟨attempt, -⟩ | abort
    · simp [attempt]
    · simp [abort]
  | marked position =>
    rw [position] at catalog retries
    exact ⟨catalog, retries, by simp⟩
  | caughtUp position =>
    rw [position] at catalog
    have initial : state.catalog = .initial := catalog
    refine ⟨catalogAt_retryOperationAttempt ?_ (.inl initial), withinRetries_retryOperationAttempt ?_, ?_⟩
    · cases createTriggers
      · exact .inl initial
      · exact initial
    · cases createTriggers <;> exact id
    · rcases retryOperationAttempt_cases maxRetries 0
        (if createTriggers then .createTriggersOnGhost else .renameOriginal) with ⟨attempt, -⟩ | abort
      · cases createTriggers <;> simp_all
      · simp [abort]
  | triggersCreated position =>
    rw [position] at catalog
    refine ⟨catalogAt_retryOperationAttempt (.inl catalog) (.inl catalog), withinRetries_retryOperationAttempt id, ?_⟩
    rcases retryOperationAttempt_cases maxRetries 0 .renameOriginal with ⟨attempt, -⟩ | abort
    · simp [attempt]
    · simp [abort]
  | originalRenamed position renamed =>
    rw [position] at catalog retries
    -- only the tables as they were can be renamed: between the ALTERs the original name is free
    rcases catalog with initial | half
    · rw [initial, Catalog.renameOriginal_initial] at renamed
      cases renamed
      exact ⟨rfl, retries, by simp⟩
    · rw [half, Catalog.renameOriginal_halfSwapped] at renamed
      cases renamed
  | ghostRenamed position renamed =>
    rw [position] at catalog
    replace catalog : state.catalog = .halfSwapped := catalog
    rw [catalog, Catalog.renameGhost_halfSwapped] at renamed
    cases renamed
    refine ⟨catalogAt_retryOperationAttempt rfl (.inr (.inr rfl)), withinRetries_retryOperationAttempt id, ?_⟩
    rcases retryOperationAttempt_cases maxRetries 0 .unlockTables with ⟨attempt, -⟩ | abort
    · simp [attempt]
    · simp [abort]
  | unlocked position =>
    rw [position] at catalog
    exact ⟨catalog, trivial, fun _ => rfl⟩
  | failed running =>
    exact ⟨catalogAt_retry catalog, withinRetries_retry _,
      fun returned => absurd returned (TwoStepCutOverStep.retry_ne_returned running.1)⟩

theorem TwoStepInvariant.step (inv : TwoStepInvariant maxRetries state) {action : TwoStepCutOverAction}
    (stepped : twoStepCutOverStep maxRetries createTriggers state action = some next) :
    TwoStepInvariant maxRetries next := by
  cases action with
  | migrator succeeds => exact inv.migratorStep stepped
  | killLockSession =>
    cases stepped
    exact ⟨inv.catalog, inv.retries, fun _ => rfl⟩
  | clientDML =>
    obtain ⟨_, _, _, rfl⟩ := twoStepClientWrite_eq stepped
    exact ⟨inv.catalog, inv.retries, inv.unlocked⟩

theorem TwoStepInvariant.run {actions : List TwoStepCutOverAction} {final : TwoStepCutOverState}
    (ran : runTwoStepCutOver maxRetries createTriggers actions = some final) : TwoStepInvariant maxRetries final :=
  Lib.run_invariant _ (TwoStepInvariant maxRetries) (fun _ _ _ inv stepped => inv.step stepped)
    TwoStepInvariant.start ran

end Invariant

/-- However the statements fail and the parties interleave, a nil return from
`cutOverTwoStep` comes with the tables swapped and the lock released, and `PanicAbort`
leaves the tables as they were, between the two ALTERs, or swapped. -/
theorem two_step_cut_over_outcome {maxRetries : Nat} {createTriggers : Bool}
    {actions : List TwoStepCutOverAction} {final : TwoStepCutOverState}
    (ran : runTwoStepCutOver maxRetries createTriggers actions = some final)
    (finished : final.migrator = .returned ∨ final.migrator = .panicAbort) : TwoStepCutOverOutcome final := by
  have inv := TwoStepInvariant.run ran
  have catalog := inv.catalog
  rcases finished with returned | aborted
  · rw [returned] at catalog
    exact .inl ⟨returned, catalog, inv.unlocked returned⟩
  · rw [aborted] at catalog
    exact .inr ⟨aborted, catalog⟩

/-- The cut-over with its statements succeeding up to the second ALTER, which fails on
the only attempt. -/
def secondRenameFails : List TwoStepCutOverAction :=
  [.migrator true, .migrator true, .migrator true, .migrator true, .migrator false]

theorem two_step_cut_over_outcome_half_swapped :
    ∃ final, runTwoStepCutOver 1 false secondRenameFails = some final ∧ final.catalog = .halfSwapped ∧
      TwoStepCutOverOutcome final := by
  have ran : runTwoStepCutOver 1 false secondRenameFails = some ⟨.panicAbort, .halfSwapped, true, [.marker, .rename]⟩ :=
    rfl
  exact ⟨_, ran, rfl, two_step_cut_over_outcome ran (.inr rfl)⟩

/-! ## While the lock session's connection lives -/

/-- Positions at which the cut-over holds the lock it took. -/
def TwoStepCutOverStep.holdsLock : TwoStepCutOverStep → Bool
  | .writeMarker _ | .awaitEventsUpToLock _ | .createTriggersOnGhost _ | .renameOriginal _ | .renameGhost _
  | .unlockTables _ => true
  | _ => false

/-- Positions after a marker was written. -/
def TwoStepCutOverStep.marked : TwoStepCutOverStep → Bool
  | .awaitEventsUpToLock _ | .createTriggersOnGhost _ | .renameOriginal _ | .renameGhost _ | .unlockTables _
  | .returned => true
  | _ => false

/-- Positions after the first ALTER committed. -/
def TwoStepCutOverStep.renamedOriginal : TwoStepCutOverStep → Bool
  | .renameGhost _ | .unlockTables _ | .returned => true
  | _ => false

/-- What holds in a run in which the lock session's connection lives: the lock is held
from `LockOriginalTable` to `UnlockTables`, so from the first marker on no write reaches
the original table while it has its name. -/
structure KeptLockInvariant (state : TwoStepCutOverState) : Prop where
  locked : state.migrator.holdsLock → state.tableLocked = true
  guarded : (sinceMarker state.history).isSome → state.catalog.original = some .originalTable →
    state.tableLocked = true
  marked : state.migrator.marked → (sinceMarker state.history).isSome
  renamed : state.migrator.renamedOriginal → ∃ later, sinceMarker state.history = some later ∧ .rename ∈ later
  clean : CleanSince state.history

section KeptLock

variable {maxRetries : Nat} {createTriggers : Bool} {state next : TwoStepCutOverState}

theorem of_retryOperationAttempt (position : TwoStepCutOverStep → Bool) (notAborted : position .panicAbort = false)
    {attempts : Nat} {operation : Nat → TwoStepCutOverStep}
    (holds : position (retryOperationAttempt maxRetries attempts operation)) : position (operation attempts) := by
  rcases retryOperationAttempt_cases maxRetries attempts operation with ⟨attempt, -⟩ | abort
  · rwa [attempt] at holds
  · rw [abort, notAborted] at holds
    cases holds

/-- A failed attempt goes back within its operation, never past the statement that failed. -/
theorem retry_positions (maxRetries : Nat) (step : TwoStepCutOverStep) :
    ((step.retry maxRetries).holdsLock → step.holdsLock) ∧ ((step.retry maxRetries).marked → step.marked) ∧
      ((step.retry maxRetries).renamedOriginal → step.renamedOriginal) := by
  cases step <;> simp only [TwoStepCutOverStep.retry, retryOperationAttempt] <;> (try split) <;>
    simp [TwoStepCutOverStep.holdsLock, TwoStepCutOverStep.marked, TwoStepCutOverStep.renamedOriginal]

theorem isSome_of_sinceMarker_append {history : List ServerEvent} {event : ServerEvent}
    (marked : (sinceMarker (history ++ [event])).isSome) (notMarker : event ≠ .marker) :
    (sinceMarker history).isSome := by
  cases found : sinceMarker history with
  | none =>
    rw [sinceMarker_append_of_none found] at marked
    cases event
    case marker => exact absurd rfl notMarker
    all_goals cases marked
  | some later => rfl

/-- An event keeps the history clean unless it is a write to the original table after
the marker. -/
theorem CleanSince.append {history : List ServerEvent} (clean : CleanSince history) {event : ServerEvent}
    (allowed : sinceMarker history = none ∨ event ≠ .dml .originalTable) : CleanSince (history ++ [event]) := by
  intro later reached
  cases found : sinceMarker history with
  | none =>
    rw [sinceMarker_append_of_none found] at reached
    cases event
    case marker =>
      cases reached
      simp
    all_goals cases reached
  | some before =>
    rw [sinceMarker_append_of_some found, Option.some.injEq] at reached
    subst reached
    have written : event ≠ .dml .originalTable := allowed.resolve_left (by simp [found])
    simp [clean before found, Ne.symm written]

theorem KeptLockInvariant.start : KeptLockInvariant (TwoStepCutOverState.start maxRetries) := by
  -- the first attempt at the lock is at none of the positions, and nothing has happened yet
  refine ⟨fun held => ?_, fun marked => ?_, fun marked => ?_, fun renamed => ?_, fun later reached => ?_⟩
  · cases of_retryOperationAttempt TwoStepCutOverStep.holdsLock rfl held
  · cases marked
  · cases of_retryOperationAttempt TwoStepCutOverStep.marked rfl marked
  · cases of_retryOperationAttempt TwoStepCutOverStep.renamedOriginal rfl renamed
  · cases reached

theorem KeptLockInvariant.migratorStep (kept : KeptLockInvariant state) (inv : TwoStepInvariant maxRetries state)
    {succeeds : Bool} (stepped : twoStepMigratorStep maxRetries createTriggers state succeeds = some next) :
    KeptLockInvariant next := by
  obtain ⟨locked, guarded, marked, renamed, clean⟩ := kept
  cases twoStepMove_of_step stepped with
  | locked position =>
    refine ⟨fun _ => rfl, fun _ _ => rfl, fun now => ?_, fun now => ?_, clean⟩
    · cases of_retryOperationAttempt TwoStepCutOverStep.marked rfl now
    · cases of_retryOperationAttempt TwoStepCutOverStep.renamedOriginal rfl now
  | marked position =>
    have held := locked (by rw [position]; rfl)
    refine ⟨fun _ => held, fun _ _ => held, fun _ => SafetyInvariant.isSome_sinceMarker_append_marker _, fun now => ?_,
      clean.append (.inr (by simp))⟩
    cases now
  | caughtUp position =>
    have held := locked (by rw [position]; rfl)
    refine ⟨fun _ => held, guarded, fun _ => marked (by rw [position]; rfl),
      fun now => ?_, clean⟩
    have := of_retryOperationAttempt TwoStepCutOverStep.renamedOriginal rfl now
    cases createTriggers <;> cases this
  | triggersCreated position =>
    have held := locked (by rw [position]; rfl)
    refine ⟨fun _ => held, guarded, fun _ => marked (by rw [position]; rfl),
      fun now => ?_, clean⟩
    cases of_retryOperationAttempt TwoStepCutOverStep.renamedOriginal rfl now
  | originalRenamed position renamedNow =>
    have held := locked (by rw [position]; rfl)
    obtain ⟨later, found⟩ := Option.isSome_iff_exists.mp (marked (by rw [position]; rfl))
    -- the first ALTER moves the original table off its name
    have emptied : ∀ {catalog : Catalog}, state.catalog.renameOriginal = some catalog → catalog.original = none := by
      intro catalog renamed
      unfold Catalog.renameOriginal at renamed
      split at renamed
      · cases renamed
        rfl
      · cases renamed
    refine ⟨fun _ => held, fun _ named => ?_, fun _ => isSome_sinceMarker_append (by simp [found]) _,
      fun _ => ⟨later ++ [.rename], sinceMarker_append_of_some found _, by simp⟩, clean.append (.inr (by simp))⟩
    rw [emptied renamedNow] at named
    cases named
  | ghostRenamed position renamedNow =>
    have held := locked (by rw [position]; rfl)
    have catalog := inv.catalog
    rw [position] at catalog
    replace catalog : state.catalog = .halfSwapped := catalog
    rw [catalog, Catalog.renameGhost_halfSwapped, Option.some.injEq] at renamedNow
    subst renamedNow
    refine ⟨fun _ => held, fun _ named => ?_, fun _ => marked (by rw [position]; rfl),
      fun _ => renamed (by rw [position]; rfl), clean⟩
    cases named
  | unlocked position =>
    have catalog := inv.catalog
    rw [position] at catalog
    refine ⟨fun now => ?_, fun _ named => ?_, fun _ => marked (by rw [position]; rfl),
      fun _ => renamed (by rw [position]; rfl), clean⟩
    · cases now
    · -- the original name names the ghost table by now
      replace catalog : state.catalog = .swapped := catalog
      simp [catalog, Catalog.swapped] at named
  | failed running =>
    obtain ⟨backLock, backMarked, backRenamed⟩ := retry_positions maxRetries state.migrator
    exact ⟨fun now => locked (backLock now), guarded, fun now => marked (backMarked now),
      fun now => renamed (backRenamed now), clean⟩

theorem KeptLockInvariant.clientWrite (kept : KeptLockInvariant state)
    (stepped : twoStepClientWrite state = some next) : KeptLockInvariant next := by
  obtain ⟨table, named, unlocked, rfl⟩ := twoStepClientWrite_eq stepped
  refine ⟨kept.locked, fun marked => kept.guarded (isSome_of_sinceMarker_append marked (by simp)),
    fun now => isSome_sinceMarker_append (kept.marked now) _, fun now => ?_, kept.clean.append ?_⟩
  · obtain ⟨later, found, committed⟩ := kept.renamed now
    exact ⟨later ++ [.dml table], sinceMarker_append_of_some found _, List.mem_append_left _ committed⟩
  · -- a write to the original table got past the lock, so there was no marker yet
    by_cases original : table = .originalTable
    · subst original
      cases found : sinceMarker state.history with
      | none => exact .inl rfl
      | some later =>
        have held := kept.guarded (by simp [found]) named
        rw [unlocked rfl] at held
        cases held
    · exact .inr (by simpa using original)

theorem KeptLockInvariant.step (kept : KeptLockInvariant state) (inv : TwoStepInvariant maxRetries state)
    {action : TwoStepCutOverAction} (alive : action ≠ .killLockSession)
    (stepped : twoStepCutOverStep maxRetries createTriggers state action = some next) : KeptLockInvariant next := by
  cases action with
  | migrator succeeds => exact kept.migratorStep inv stepped
  | killLockSession => exact absurd rfl alive
  | clientDML => exact kept.clientWrite stepped

end KeptLock

/-- While the lock session's connection lives, a nil return from `cutOverTwoStep`
follows a clean cut-over: the original table was renamed after the marker, and no
client's write reached it from the marker on. -/
theorem two_step_cut_over_clean {maxRetries : Nat} {createTriggers : Bool}
    {actions : List TwoStepCutOverAction} {final : TwoStepCutOverState}
    (alive : .killLockSession ∉ actions) (ran : runTwoStepCutOver maxRetries createTriggers actions = some final)
    (returned : final.migrator = .returned) : CleanCutOver final.history := by
  have holds : TwoStepInvariant maxRetries final ∧ KeptLockInvariant final :=
    Lib.run_invariant_of_forall _ (fun reached => TwoStepInvariant maxRetries reached ∧ KeptLockInvariant reached)
      (· ≠ .killLockSession)
      (fun _ _ _ living ⟨inv, kept⟩ stepped => ⟨inv.step stepped, kept.step inv living stepped⟩)
      (fun action member same => by subst same; exact alive member) ⟨TwoStepInvariant.start, KeptLockInvariant.start⟩ ran
  obtain ⟨later, found, renamed⟩ := holds.2.renamed (by rw [returned]; rfl)
  unfold CleanCutOver
  rw [found]
  exact ⟨renamed, holds.2.clean later found⟩

/-- Every statement succeeds on its first attempt, with clients' writes before the lock
and after the swap. -/
def quickAndBumpy : List TwoStepCutOverAction :=
  [.clientDML, .migrator true, .migrator true, .migrator true, .migrator true, .migrator true, .clientDML,
    .migrator true]

theorem two_step_cut_over_clean_quick_and_bumpy :
    ∃ final, runTwoStepCutOver 1 false quickAndBumpy = some final ∧ final.migrator = .returned ∧
      CleanCutOver final.history := by
  have ran : runTwoStepCutOver 1 false quickAndBumpy =
      some ⟨.returned, .swapped, false, [.dml .originalTable, .marker, .rename, .dml .ghostTable]⟩ := rfl
  exact ⟨_, ran, rfl, two_step_cut_over_clean (by decide) ran rfl⟩

/-- Once the lock session's connection has died, the cut-over still returns nil after
a write that reached the original table behind the marker. -/
def lockLostBeforeMarker : List TwoStepCutOverAction :=
  [.migrator true, .killLockSession, .migrator true, .clientDML, .migrator true, .migrator true, .migrator true,
    .migrator true]

theorem two_step_unclean_after_lost_lock :
    ∃ final, runTwoStepCutOver 1 false lockLostBeforeMarker = some final ∧ final.migrator = .returned ∧
      ¬CleanCutOver final.history :=
  ⟨_, rfl, rfl, by decide⟩

/-! ## After a failed second ALTER -/

/-- After the second ALTER of an attempt failed: the original name is empty, and the
cut-over is at an attempt of at least `attempts` at the first ALTER, or has aborted. -/
def SwapStuck (maxRetries attempts : Nat) (state : TwoStepCutOverState) : Prop :=
  state.catalog = .halfSwapped ∧
    (state.migrator = .panicAbort ∨
      ∃ later, attempts ≤ later ∧ later < maxRetries ∧ state.migrator = .renameOriginal later)

section Stuck

variable {maxRetries : Nat} {createTriggers : Bool} {state next : TwoStepCutOverState}

/-- With the original name empty the first ALTER cannot succeed, so each step of the
migrator uses up an attempt, and clients' writes fail. -/
theorem SwapStuck.step {attempts : Nat} (stuck : SwapStuck maxRetries attempts state)
    {action : TwoStepCutOverAction} (stepped : twoStepCutOverStep maxRetries createTriggers state action = some next) :
    SwapStuck maxRetries (if action.isMigrator then attempts + 1 else attempts) next := by
  obtain ⟨half, progress⟩ := stuck
  cases action with
  | migrator succeeds =>
    cases twoStepMove_of_step stepped
    case failed running =>
      rcases progress with aborted | ⟨later, above, below, position⟩
      · exact absurd aborted running.2
      · refine ⟨half, ?_⟩
        simp only [TwoStepCutOverAction.isMigrator, ite_true, position, TwoStepCutOverStep.retry_renameOriginal]
        rcases retryOperationAttempt_cases maxRetries (later + 1) .renameOriginal with
          ⟨attempt, fits⟩ | abort
        · exact .inr ⟨later + 1, by omega, fits, attempt⟩
        · exact .inl abort
    case originalRenamed renamed =>
      rw [half, Catalog.renameOriginal_halfSwapped] at renamed
      cases renamed
    all_goals rcases progress with aborted | ⟨_, _, _, retrying⟩ <;> simp_all
  | killLockSession =>
    cases stepped
    exact ⟨half, progress⟩
  | clientDML =>
    obtain ⟨table, named, -, -⟩ := twoStepClientWrite_eq stepped
    rw [half] at named
    cases named

end Stuck

/-- Once the second ALTER of an attempt has failed, the cut-over cannot recover: with
no table under the original name, every later attempt fails at the first ALTER and
every client's write fails. The run ends with the original name empty and without a
nil return, and once the migrator has used its remaining attempts it has sent
`PanicAbort`. -/
theorem swap_never_recovers {maxRetries : Nat} {createTriggers : Bool} {before rest : List TwoStepCutOverAction}
    {swapping final : TwoStepCutOverState} {attempts : Nat}
    (toSwap : runTwoStepCutOver maxRetries createTriggers before = some swapping)
    (renamingGhost : swapping.migrator = .renameGhost attempts)
    (ran : runTwoStepCutOver maxRetries createTriggers (before ++ .migrator false :: rest) = some final) :
    final.catalog = .halfSwapped ∧ final.migrator ≠ .returned ∧
      (maxRetries ≤ attempts + 1 + rest.countP TwoStepCutOverAction.isMigrator → final.migrator = .panicAbort) := by
  have inv := TwoStepInvariant.run toSwap
  have half : swapping.catalog = .halfSwapped := by
    have catalog := inv.catalog
    rw [renamingGhost] at catalog
    exact catalog
  let retrying := { swapping with migrator := retryOperationAttempt maxRetries (attempts + 1) .renameOriginal }
  have failed : twoStepCutOverStep maxRetries createTriggers swapping (.migrator false) = some retrying := by
    have running : swapping.migrator ≠ .returned ∧ swapping.migrator ≠ .panicAbort := by
      rw [renamingGhost]
      exact ⟨nofun, nofun⟩
    rw [show retrying = { swapping with migrator := swapping.migrator.retry maxRetries } by
      rw [renamingGhost, TwoStepCutOverStep.retry_renameGhost]]
    exact twoStepMigratorStep_false running
  have stuck : SwapStuck maxRetries (attempts + 1) retrying := by
    refine ⟨half, ?_⟩
    rcases retryOperationAttempt_cases maxRetries (attempts + 1) .renameOriginal with
      ⟨attempt, below⟩ | abort
    · exact .inr ⟨attempts + 1, Nat.le_refl _, below, attempt⟩
    · exact .inl abort
  unfold runTwoStepCutOver at toSwap ran
  rw [Lib.run_append, toSwap, Option.bind_some, Lib.run_of_step _ failed] at ran
  obtain ⟨emptied, progress⟩ :=
    Lib.run_invariant_countP _ (SwapStuck maxRetries) TwoStepCutOverAction.isMigrator
      (fun _ _ _ _ stuck stepped => stuck.step stepped) stuck ran
  refine ⟨emptied, fun returned => ?_, fun exhausted => ?_⟩
  · rcases progress with aborted | ⟨_, _, _, retryingNow⟩
    · rw [returned] at aborted
      cases aborted
    · rw [returned] at retryingNow
      cases retryingNow
  · rcases progress with aborted | ⟨later, above, below, -⟩
    · exact aborted
    · omega

/-- The statements up to the second ALTER, each succeeding on its first attempt. -/
def untilSecondRename : List TwoStepCutOverAction :=
  [.migrator true, .migrator true, .migrator true, .migrator true]

theorem swap_never_recovers_three_retries :
    (∃ swapping, runTwoStepCutOver 3 false untilSecondRename = some swapping ∧
      swapping.migrator = .renameGhost 0) ∧
    ∃ final, runTwoStepCutOver 3 false (untilSecondRename ++ .migrator false :: [.migrator true, .migrator true]) =
        some final ∧ final.catalog = .halfSwapped ∧ final.migrator ≠ .returned ∧
      (3 ≤ 0 + 1 + [TwoStepCutOverAction.migrator true, .migrator true].countP TwoStepCutOverAction.isMigrator →
        final.migrator = .panicAbort) := by
  have toSwap : runTwoStepCutOver 3 false untilSecondRename =
      some ⟨.renameGhost 0, .halfSwapped, true, [.marker, .rename]⟩ := rfl
  have ran : runTwoStepCutOver 3 false (untilSecondRename ++ .migrator false :: [.migrator true, .migrator true]) =
      some ⟨.panicAbort, .halfSwapped, true, [.marker, .rename]⟩ := rfl
  exact ⟨⟨_, toSwap, rfl⟩, _, ran, swap_never_recovers toSwap rfl ran⟩

end GhOst.Logic
