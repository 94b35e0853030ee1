import GhOst.Lib.Machine

/-! The atomic cut-over. `Migrator.atomicCutOver` starts two goroutines and talks to
them over channels. `AtomicCutOverMagicLock` creates the sentry table `_del`, takes
`LOCK TABLES` on the original table and `_del`, and holds the lock until it reads
`okToUnlockTable`; then it drops the sentry and unlocks. `AtomicCutoverRename` issues
`RENAME TABLE original TO _del, _gho TO original`, which waits for that lock. Between
the two the migrator writes the `AllEventsUpToLockProcessed` marker and waits for the
applier to reach it, waits for the RENAME to show in the process list (`ExpectProcess`,
retried), checks that the lock session still holds its voluntary lock
(`ExpectUsedLock`) and lets the lock go.

The server is what the cut-over observes of it: the three table names, the lock
session's table lock and voluntary lock, whether its connection lives, and the order
in which writes, the marker and the RENAME commit. MySQL's rules are built in:
`LOCK TABLES ... WRITE` holds off other sessions' writes and the RENAME, a RENAME onto
an existing name fails, a waiting RENAME goes before waiting writes, and a dead
session's locks are released. Any statement may fail, the lock session's connection
may die at any time, and the goroutines interleave freely.

Every channel has room for all that is ever sent on it (two or four slots), so no send
blocks: a channel is the list of values sent and not yet received. -/

namespace GhOst.Logic

/-- The tables of the cut-over, by what they hold. -/
inductive TableObject where
  | originalTable
  | ghostTable
  /-- the magic `_del` table of `CreateAtomicCutOverSentryTable` -/
  | sentryTable
  deriving DecidableEq, Repr

/-- What the original table's name, `_del` (`GetOldTableName`) and `_gho`
(`GetGhostTableName`) name. -/
structure Catalog where
  original : Option TableObject
  old : Option TableObject
  ghost : Option TableObject
  deriving DecidableEq, Repr

/-- Before the cut-over. -/
def Catalog.initial : Catalog := ⟨some .originalTable, none, some .ghostTable⟩

/-- After the RENAME. -/
def Catalog.swapped : Catalog := ⟨some .ghostTable, some .originalTable, none⟩

/-- `rename table original to _del, _gho to original`: both sources must exist and
`_del` must not. -/
def Catalog.rename (catalog : Catalog) : Option Catalog :=
  match catalog.original, catalog.old, catalog.ghost with
  | some original, none, some ghost => some ⟨some ghost, some original, none⟩
  | _, _, _ => none

/-- What commits on the server, in order. -/
inductive ServerEvent where
  /-- a client's write, to the table the original name names -/
  | dml (table : TableObject)
  /-- the `AllEventsUpToLockProcessed` changelog state -/
  | marker
  | rename
  deriving DecidableEq, Repr

/-- Where `AtomicCutOverMagicLock` is: the statement it runs next. -/
inductive LockSessionStep where
  | begin
  | connectionId
  | getLock
  | setLockWaitTimeout
  | createSentryTable
  | initWaitTimeout
  | lockTables
  | awaitOkToUnlock
  | dropSentryTable
  | unlockTables
  /-- the deferred sends that release blocked readers, and the rollback -/
  | deferred
  /-- the deferred `DropAtomicCutOverSentryTableIfExists`, on another connection -/
  | dropSentryIfExists
  | returned
  deriving DecidableEq, Repr

/-- Where the rename goroutine and `AtomicCutoverRename` are. -/
inductive RenameSessionStep where
  | notStarted
  | begin
  | connectionId
  | setLockWaitTimeout
  | issueRename
  /-- the RENAME waits for its locks -/
  | renamePending
  /-- the deferred rollback and sends, `renamed` telling whether the RENAME took effect -/
  | deferred (renamed : Bool)
  /-- the goroutine on an error: `tableRenameKnownToHaveFailed`, then `okToUnlockTable` -/
  | abort
  | returned
  deriving DecidableEq, Repr

/-- Where `atomicCutOver` is. -/
inductive CutOverStep where
  | awaitTableLocked
  | awaitLockSessionId
  /-- `waitForEventsUpToLock`: `WriteChangelogState` of the marker -/
  | writeMarker
  /-- `waitForEventsUpToLock`: the applier reaches the marker, or the timer fires -/
  | awaitEventsUpToLock
  | awaitRenameSessionId
  /-- `retryOperation(waitForRename)` after `attempts` failed attempts -/
  | waitForRename (attempts : Nat)
  | expectUsedLock
  | awaitTableUnlocked
  | awaitTablesRenamed
  /-- `atomicCutOver` has returned: nil when `succeeded`, an error otherwise -/
  | returned (succeeded : Bool)
  deriving DecidableEq, Repr

/-- The three goroutines, their channels and the server. A session id on a channel
or read from one is `true` for the session's own id and `false` for the -1 the
deferred functions send; an error on a channel is `true` for nil. -/
structure CutOverState where
  migrator : CutOverStep
  lockSession : LockSessionStep
  renameSession : RenameSessionStep
  lockOriginalSessionIdChan : List Bool
  tableLocked : List Bool
  tableUnlocked : List Bool
  okToUnlockTable : Nat
  renameSessionIdChan : List Bool
  tablesRenamed : List Bool
  tableRenameKnownToHaveFailed : Bool
  lockOriginalSessionId : Bool
  renameSessionId : Bool
  catalog : Catalog
  lockSessionAlive : Bool
  /-- the lock session's `LOCK TABLES` of the original table and `_del` -/
  tablesLocked : Bool
  /-- the lock session's `get_lock` -/
  voluntaryLock : Bool
  history : List ServerEvent
  deriving DecidableEq, Repr

/-- `atomicCutOver` has just started the lock goroutine. -/
def CutOverState.start : CutOverState where
  migrator := .awaitTableLocked
  lockSession := .begin
  renameSession := .notStarted
  lockOriginalSessionIdChan := []
  tableLocked := []
  tableUnlocked := []
  okToUnlockTable := 0
  renameSessionIdChan := []
  tablesRenamed := []
  tableRenameKnownToHaveFailed := false
  lockOriginalSessionId := false
  renameSessionId := false
  catalog := .initial
  lockSessionAlive := true
  tablesLocked := false
  voluntaryLock := false
  history := []

/-- What happens next, and whether the statement or wait it is succeeds. -/
inductive CutOverAction where
  | lockSession (succeeds : Bool)
  /-- the lock session's connection dies -/
  | killLockSession
  | renameSession (succeeds : Bool)
  /-- the server grants the waiting RENAME its locks -/
  | grantRename
  | migrator (succeeds : Bool)
  /-- a client writes the table under the original name -/
  | clientDML
  deriving DecidableEq, Repr

namespace CutOverState

/-- `tableLocked <- err; return err`, into the deferred function. -/
def lockFailed (state : CutOverState) : CutOverState :=
  { state with tableLocked := state.tableLocked ++ [false], lockSession := .deferred }

/-- `atomicCutOver` returns, and its deferred `okToUnlockTable <- true` runs. -/
def migratorReturns (state : CutOverState) (succeeded : Bool) : CutOverState :=
  { state with migrator := .returned succeeded, okToUnlockTable := state.okToUnlockTable + 1 }

end CutOverState

/-- `AtomicCutOverMagicLock`, one statement. A statement on the session's own
connection fails once the connection is dead. -/
def lockSessionStep (state : CutOverState) (succeeds : Bool) : Option CutOverState :=
  let ok := succeeds && state.lockSessionAlive
  match state.lockSession with
  | .begin =>
    -- a failed `db.Begin` returns before the deferred function is set up
    some (if ok then { state with lockSession := .connectionId }
      else { state with tableLocked := state.tableLocked ++ [false], lockSession := .returned })
  | .connectionId =>
    some (if ok then
      { state with lockOriginalSessionIdChan := state.lockOriginalSessionIdChan ++ [true], lockSession := .getLock }
      else state.lockFailed)
  | .getLock =>
    some (if ok then { state with voluntaryLock := true, lockSession := .setLockWaitTimeout } else state.lockFailed)
  | .setLockWaitTimeout =>
    some (if ok then { state with lockSession := .createSentryTable } else state.lockFailed)
  | .createSentryTable =>
    -- on a pooled connection: a leftover sentry is dropped first, any other `_del` is an error
    some (if succeeds && (state.catalog.old == none || state.catalog.old == some .sentryTable) then
      { state with catalog := { state.catalog with old := some .sentryTable }, lockSession := .initWaitTimeout }
      else state.lockFailed)
  | .initWaitTimeout =>
    some (if ok then { state with lockSession := .lockTables } else state.lockFailed)
  | .lockTables =>
    some (if ok then
      { state with tablesLocked := true, tableLocked := state.tableLocked ++ [true], lockSession := .awaitOkToUnlock }
      else state.lockFailed)
  | .awaitOkToUnlock =>
    if 0 < state.okToUnlockTable then
      some { state with okToUnlockTable := state.okToUnlockTable - 1, lockSession := .dropSentryTable }
    else none
  | .dropSentryTable =>
    -- a failed drop is logged, and the unlock goes ahead
    some (if ok then { state with catalog := { state.catalog with old := none }, lockSession := .unlockTables }
      else { state with lockSession := .unlockTables })
  | .unlockTables =>
    some (if ok then
      { state with tablesLocked := false, tableUnlocked := state.tableUnlocked ++ [true], lockSession := .deferred }
      else { state with tableUnlocked := state.tableUnlocked ++ [false], lockSession := .deferred })
  | .deferred =>
    some { state with lockOriginalSessionIdChan := state.lockOriginalSessionIdChan ++ [false],
                      tableLocked := state.tableLocked ++ [false], tableUnlocked := state.tableUnlocked ++ [false],
                      lockSession := .dropSentryIfExists }
  | .dropSentryIfExists =>
    -- only the sentry is dropped, known by its comment; under the table lock the drop waits out
    -- its timeout and fails
    some (if succeeds && !state.tablesLocked && state.catalog.old == some .sentryTable then
      { state with catalog := { state.catalog with old := none }, lockSession := .returned }
      else { state with lockSession := .returned })
  | .returned => none

/-- The rename goroutine and `AtomicCutoverRename`, one statement. A RENAME that is
granted its locks is `grantRename`. -/
def renameSessionStep (state : CutOverState) (succeeds : Bool) : Option CutOverState :=
  match state.renameSession with
  | .notStarted => none
  | .begin =>
    -- a failed `db.Begin` returns before the deferred function is set up
    some { state with renameSession := if succeeds then .connectionId else .abort }
  | .connectionId =>
    some (if succeeds then
      { state with renameSessionIdChan := state.renameSessionIdChan ++ [true], renameSession := .setLockWaitTimeout }
      else { state with renameSession := .deferred false })
  | .setLockWaitTimeout =>
    some { state with renameSession := if succeeds then .issueRename else .deferred false }
  | .issueRename =>
    some (if succeeds then { state with renameSession := .renamePending }
      else { state with tablesRenamed := state.tablesRenamed ++ [false], renameSession := .deferred false })
  | .renamePending =>
    -- the wait ends in `lock_wait_timeout`, or the session dies
    if succeeds then none
    else some { state with tablesRenamed := state.tablesRenamed ++ [false], renameSession := .deferred false }
  | .deferred renamed =>
    some { state with renameSessionIdChan := state.renameSessionIdChan ++ [false],
                      tablesRenamed := state.tablesRenamed ++ [false],
                      renameSession := if renamed then .returned else .abort }
  | .abort =>
    some { state with tableRenameKnownToHaveFailed := true, okToUnlockTable := state.okToUnlockTable + 1,
                      renameSession := .returned }
  | .returned => none

/-- The waiting RENAME runs once no lock holds it off. -/
def grantRename (state : CutOverState) : Option CutOverState :=
  if state.renameSession = .renamePending ∧ state.tablesLocked = false then
    some (match state.catalog.rename with
      | some catalog =>
        { state with catalog, history := state.history ++ [.rename], tablesRenamed := state.tablesRenamed ++ [true],
                     renameSession := .deferred true }
      | none => { state with tablesRenamed := state.tablesRenamed ++ [false], renameSession := .deferred false })
  else none

/-- A client's write to the table under the original name, which waits for the table
lock and for a RENAME queued before it. -/
def clientWrite (state : CutOverState) : Option CutOverState :=
  if state.tablesLocked = true ∨ state.renameSession = .renamePending then none
  else state.catalog.original.map fun table => { state with history := state.history ++ [.dml table] }

/-- The lock session's connection dies, and the server releases its locks. -/
def killLockSession (state : CutOverState) : Option CutOverState :=
  if state.lockSessionAlive then
    some { state with lockSessionAlive := false, tablesLocked := false, voluntaryLock := false }
  else none

section Migrator

variable (maxRetries : Nat)

/-- `atomicCutOver`, one step; `maxRetries` is `MaxRetries()`. -/
def migratorStep (state : CutOverState) (succeeds : Bool) : Option CutOverState :=
  match state.migrator with
  | .awaitTableLocked =>
    match state.tableLocked with
    | true :: rest => some { state with tableLocked := rest, migrator := .awaitLockSessionId }
    | false :: rest => some ({ state with tableLocked := rest }.migratorReturns false)
    | [] => none
  | .awaitLockSessionId =>
    match state.lockOriginalSessionIdChan with
    | id :: rest =>
      some { state with lockOriginalSessionIdChan := rest, lockOriginalSessionId := id, migrator := .writeMarker }
    | [] => none
  | .writeMarker =>
    some (if succeeds then { state with history := state.history ++ [.marker], migrator := .awaitEventsUpToLock }
      else state.migratorReturns false)
  | .awaitEventsUpToLock =>
    -- on success the rename goroutine starts
    some (if succeeds then { state with renameSession := .begin, migrator := .awaitRenameSessionId }
      else state.migratorReturns false)
  | .awaitRenameSessionId =>
    match state.renameSessionIdChan with
    | id :: rest =>
      some { state with renameSessionIdChan := rest, renameSessionId := id, migrator := .waitForRename 0 }
    | [] => none
  | .waitForRename attempts =>
    if attempts < maxRetries then
      -- `waitForRename` passes when the RENAME is known to have failed, and otherwise when
      -- `ExpectProcess` finds the RENAME session waiting
      if state.tableRenameKnownToHaveFailed ||
          (succeeds && state.renameSessionId && state.renameSession == .renamePending) then
        some { state with migrator := .expectUsedLock }
      else some { state with migrator := .waitForRename (attempts + 1) }
    else if attempts = 0 then
      -- no attempt at all leaves the error nil
      some { state with migrator := .expectUsedLock }
    else
      -- retries exhausted: `okToUnlockTable <- true`, then `return err`
      some ({ state with okToUnlockTable := state.okToUnlockTable + 1 }.migratorReturns false)
  | .expectUsedLock =>
    if succeeds && state.lockOriginalSessionId && state.voluntaryLock then
      some { state with okToUnlockTable := state.okToUnlockTable + 1, migrator := .awaitTableUnlocked }
    else some (state.migratorReturns false)
  | .awaitTableUnlocked =>
    match state.tableUnlocked with
    | true :: rest => some { state with tableUnlocked := rest, migrator := .awaitTablesRenamed }
    | false :: rest => some ({ state with tableUnlocked := rest }.migratorReturns false)
    | [] => none
  | .awaitTablesRenamed =>
    match state.tablesRenamed with
    | renamed :: rest => some ({ state with tablesRenamed := rest }.migratorReturns renamed)
    | [] => none
  | .returned _ => none

/-- One action of any party. -/
def cutOverStep (state : CutOverState) : CutOverAction → Option CutOverState
  | .lockSession succeeds => lockSessionStep state succeeds
  | .killLockSession => killLockSession state
  | .renameSession succeeds => renameSessionStep state succeeds
  | .grantRename => grantRename state
  | .migrator succeeds => migratorStep maxRetries state succeeds
  | .clientDML => clientWrite state

/-- The state a schedule of actions leads to from the start. -/
def runCutOver (actions : List CutOverAction) : Option CutOverState :=
  Lib.run (cutOverStep maxRetries) CutOverState.start actions

end Migrator

/-- The events committed after the first marker, if there is one. -/
def sinceMarker : List ServerEvent → Option (List ServerEvent)
  | [] => none
  | .marker :: later => some later
  | _ :: later => sinceMarker later

/-- The marker was written, the RENAME committed after it, and no write reached the
original table from the marker on. -/
def CleanCutOver (history : List ServerEvent) : Prop :=
  match sinceMarker history with
  | some later => .rename ∈ later ∧ .dml .originalTable ∉ later
  | none => False

instance : DecidablePred CleanCutOver := fun history => by
  unfold CleanCutOver
  split <;> infer_instance

/-- The claimed outcomes of a cut-over that has returned: nil, with the tables swapped
and the cut-over clean; or an error, with both tables under their own names. -/
def CutOverOutcome (state : CutOverState) : Prop :=
  (state.migrator = .returned true ∧ state.catalog = .swapped ∧ CleanCutOver state.history) ∨
  (state.migrator = .returned false ∧ state.catalog.original = some .originalTable ∧
    state.catalog.ghost = some .ghostTable)

instance : DecidablePred CutOverOutcome := fun state => by
  unfold CutOverOutcome
  infer_instance


/-! ## What each party touches -/

/-- The lock session moves only itself, its channels, its locks, `okToUnlockTable`
and `_del`. -/
theorem lockSessionStep_frame {state next : CutOverState} {succeeds : Bool}
    (stepped : lockSessionStep state succeeds = some next) :
    next.migrator = state.migrator ∧ next.renameSession = state.renameSession ∧
      next.renameSessionIdChan = state.renameSessionIdChan ∧ next.tablesRenamed = state.tablesRenamed ∧
      next.tableRenameKnownToHaveFailed = state.tableRenameKnownToHaveFailed ∧
      next.lockSessionAlive = state.lockSessionAlive ∧ next.history = state.history ∧
      next.catalog.original = state.catalog.original ∧ next.catalog.ghost = state.catalog.ghost := by
  unfold lockSessionStep at stepped
  split at stepped <;> (try split at stepped) <;> cases stepped <;> (try split) <;> simp [CutOverState.lockFailed]

/-- A client's write only adds to the history. -/
theorem clientWrite_eq {state next : CutOverState} (stepped : clientWrite state = some next) :
    ∃ table, state.catalog.original = some table ∧ state.tablesLocked = false ∧
      state.renameSession ≠ .renamePending ∧ next = { state with history := state.history ++ [.dml table] } := by
  unfold clientWrite at stepped
  split at stepped
  · cases stepped
  · next free =>
    obtain ⟨table, named, rfl⟩ := Option.map_eq_some_iff.mp stepped
    simp only [not_or, Bool.not_eq_true] at free
    exact ⟨table, named, free.1, free.2, rfl⟩

/-- The lock session's death only drops its locks. -/
theorem killLockSession_eq {state next : CutOverState} (stepped : killLockSession state = some next) :
    state.lockSessionAlive = true ∧
      next = { state with lockSessionAlive := false, tablesLocked := false, voluntaryLock := false } := by
  unfold killLockSession at stepped
  split at stepped
  · next alive =>
    cases stepped
    exact ⟨alive, rfl⟩
  · cases stepped

section Stuck

variable {maxRetries : Nat}

/-- With its goroutine gone and no session id sent, the migrator waits at
`<-renameSessionIdChan` whatever happens next. -/
theorem awaitRenameSessionId_stays {state next : CutOverState} {action : CutOverAction}
    (waiting : state.migrator = .awaitRenameSessionId) (empty : state.renameSessionIdChan = [])
    (gone : state.renameSession = .returned) (stepped : cutOverStep maxRetries state action = some next) :
    next.migrator = .awaitRenameSessionId ∧ next.renameSessionIdChan = [] ∧ next.renameSession = .returned := by
  cases action with
  | lockSession succeeds =>
    obtain ⟨migrator, renameSession, channel, -⟩ := lockSessionStep_frame stepped
    exact ⟨migrator ▸ waiting, channel ▸ empty, renameSession ▸ gone⟩
  | killLockSession =>
    obtain ⟨-, rfl⟩ := killLockSession_eq stepped
    exact ⟨waiting, empty, gone⟩
  | renameSession succeeds => simp [cutOverStep, renameSessionStep, gone] at stepped
  | grantRename => simp [cutOverStep, grantRename, gone] at stepped
  | migrator succeeds => simp [cutOverStep, migratorStep, waiting, empty] at stepped
  | clientDML =>
    obtain ⟨table, -, -, -, rfl⟩ := clientWrite_eq stepped
    exact ⟨waiting, empty, gone⟩

end Stuck

/-! ## Runs that end in neither outcome -/

/-- The lock session takes the lock, the migrator writes the marker, sees it applied
and starts the rename goroutine. -/
def lockAndMark : List CutOverAction :=
  List.replicate 7 (.lockSession true) ++ List.replicate 4 (.migrator true)

/-- The RENAME is seen waiting, and then `ExpectUsedLock`'s query fails. The
migrator returns the error; its deferred `okToUnlockTable` lets the lock session drop
the sentry and unlock, and the waiting RENAME goes through. -/
def usedLockCheckFails : List CutOverAction :=
  lockAndMark ++ [.renameSession true, .renameSession true, .migrator true, .renameSession true,
    .renameSession true, .migrator true, .migrator false, .lockSession true, .lockSession true,
    .lockSession true, .grantRename]

/-- The RENAME is slow to be issued: every `ExpectProcess` attempt misses it, the
migrator gives up and lets the lock go, a client writes the original table, and then
the RENAME runs, onto a `_del` the lock session has dropped. -/
def renameIssuedLate (maxRetries : Nat) : List CutOverAction :=
  lockAndMark ++ [.renameSession true, .renameSession true, .migrator true] ++
    List.replicate (maxRetries + 1) (.migrator false) ++
    [.lockSession true, .lockSession true, .lockSession true, .clientDML, .renameSession true,
      .renameSession true, .grantRename]

/-- The rename goroutine's `db.Begin` fails: it reports the failure and lets the lock
go, but sends no session id. -/
def renameBeginFails : List CutOverAction :=
  lockAndMark ++ [.renameSession false, .renameSession true]

/-- Under the default `MaxRetries()` of 60, `atomicCutOver` can return an error with
the tables swapped, once with a client's write to the original table committed
between the marker and the RENAME; and it can wait forever. -/
theorem cutOver_error_after_swap :
    (∃ final, runCutOver 60 usedLockCheckFails = some final ∧ final.migrator = .returned false ∧
      final.catalog = .swapped) ∧
    (∃ final, runCutOver 60 (renameIssuedLate 60) = some final ∧ final.migrator = .returned false ∧
      final.catalog = .swapped ∧ sinceMarker final.history = some [.dml .originalTable, .rename]) ∧
    (∃ stuck, runCutOver 60 renameBeginFails = some stuck ∧
      ∀ more final, Lib.run (cutOverStep 60) stuck more = some final → final.migrator = .awaitRenameSessionId) := by
  refine ⟨⟨_, rfl, rfl, rfl⟩, ⟨_, rfl, rfl, rfl, rfl⟩, ⟨_, rfl, fun more final ran => ?_⟩⟩
  exact (Lib.run_invariant (cutOverStep 60)
    (fun state => state.migrator = .awaitRenameSessionId ∧ state.renameSessionIdChan = [] ∧
      state.renameSession = .returned)
    (fun _ _ _ held stepped => awaitRenameSessionId_stays held.1 held.2.1 held.2.2 stepped)
    ⟨rfl, rfl, rfl⟩ ran).1

end GhOst.Logic
