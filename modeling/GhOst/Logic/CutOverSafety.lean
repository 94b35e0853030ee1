import GhOst.Logic.CutOver

/-! What a nil return of `atomicCutOver` guarantees. With `MaxRetries()` above zero,
in every interleaving of the three goroutines with clients' writes, failed
statements and the death of the lock session's connection: when `atomicCutOver`
returns nil, the tables are swapped, and the RENAME committed after the marker with
no write to the original table in between.

The argument follows the table lock. From the marker to `okToUnlockTable` the lock
session holds `LOCK TABLES`; when it loses it early, its `UNLOCK TABLES` reports the
failure and the migrator returns an error. From `ExpectProcess` on the RENAME waits,
and MySQL puts it before every write; when it fails or times out, `tablesRenamed`
reports the failure. A state in which one of these reports is bound to come is one in
which the cut-over can no longer return nil (`BoundToFail`); every other reachable
state has had no write to the original table since the marker. `MaxRetries()` of zero
skips `ExpectProcess`, and `cutOver_zero_retries_unclean` shows a nil return with a
write after the marker. -/

namespace GhOst.Logic

/-! ## Positions -/

/-- How far `atomicCutOver` has got, in the order of its statements. -/
@[simp] def CutOverStep.rank : CutOverStep → Nat
  | .awaitTableLocked => 0
  | .awaitLockSessionId => 1
  | .writeMarker => 2
  | .awaitEventsUpToLock => 3
  | .awaitRenameSessionId => 4
  | .waitForRename _ => 5
  | .expectUsedLock => 6
  | .awaitTableUnlocked => 7
  | .awaitTablesRenamed => 8
  | .returned _ => 9

/-- How far `AtomicCutOverMagicLock` has got. -/
@[simp] def LockSessionStep.rank : LockSessionStep → Nat
  | .begin => 0
  | .connectionId => 1
  | .getLock => 2
  | .setLockWaitTimeout => 3
  | .createSentryTable => 4
  | .initWaitTimeout => 5
  | .lockTables => 6
  | .awaitOkToUnlock => 7
  | .dropSentryTable => 8
  | .unlockTables => 9
  | .deferred => 10
  | .dropSentryIfExists => 11
  | .returned => 12

/-- How far the rename goroutine has got. -/
@[simp] def RenameSessionStep.rank : RenameSessionStep → Nat
  | .notStarted => 0
  | .begin => 1
  | .connectionId => 2
  | .setLockWaitTimeout => 3
  | .issueRename => 4
  | .renamePending => 5
  | .deferred _ => 6
  | .abort => 7
  | .returned => 8

theorem CutOverStep.eq_returned_of_rank {step : CutOverStep} (last : 9 ≤ step.rank) :
    ∃ succeeded, step = .returned succeeded := by
  cases step <;> simp_all

/-! ## The history after the marker -/

theorem sinceMarker_append_of_some {history later : List ServerEvent} (marked : sinceMarker history = some later)
    (rest : List ServerEvent) : sinceMarker (history ++ rest) = some (later ++ rest) := by
  induction history with
  | nil => cases marked
  | cons event history ih =>
    cases event with
    | marker =>
      simp only [sinceMarker, Option.some.injEq] at marked
      subst marked
      rfl
    | dml table => exact ih marked
    | rename => exact ih marked

theorem sinceMarker_append_of_none {history : List ServerEvent} (unmarked : sinceMarker history = none)
    (rest : List ServerEvent) : sinceMarker (history ++ rest) = sinceMarker rest := by
  induction history with
  | nil => rfl
  | cons event history ih =>
    cases event with
    | marker => cases unmarked
    | dml table => exact ih unmarked
    | rename => exact ih unmarked

theorem isSome_sinceMarker_append {history : List ServerEvent} (marked : (sinceMarker history).isSome)
    (rest : List ServerEvent) : (sinceMarker (history ++ rest)).isSome := by
  obtain ⟨later, found⟩ := Option.isSome_iff_exists.mp marked
  simp [sinceMarker_append_of_some found]

/-- No write reached the original table from the marker on, if there is a marker. -/
def CleanSince (history : List ServerEvent) : Prop :=
  ∀ later, sinceMarker history = some later → .dml .originalTable ∉ later

/-! ## What each party can do -/

/-- The lock session only moves forward. -/
theorem lockSessionStep_rank {state next : CutOverState} {succeeds : Bool}
    (stepped : lockSessionStep state succeeds = some next) : state.lockSession.rank ≤ next.lockSession.rank := by
  unfold lockSessionStep at stepped
  split at stepped <;> (try split at stepped) <;> cases stepped <;> (try split) <;>
    simp_all [CutOverState.lockFailed]

/-- The lock session takes an `okToUnlockTable` only at its read, and only one that was sent. -/
theorem lockSessionStep_okToUnlockTable {state next : CutOverState} {succeeds : Bool}
    (stepped : lockSessionStep state succeeds = some next) :
    next.okToUnlockTable ≤ state.okToUnlockTable ∧
      (state.lockSession = .awaitOkToUnlock → 0 < state.okToUnlockTable) := by
  unfold lockSessionStep at stepped
  split at stepped <;> (try split at stepped) <;> cases stepped <;> (try split) <;>
    simp_all [CutOverState.lockFailed]

/-- The lock session sends `true` on `tableLocked` only once it holds the lock. -/
theorem lockSessionStep_tableLocked {state next : CutOverState} {succeeds : Bool}
    (stepped : lockSessionStep state succeeds = some next) (locked : true ∈ next.tableLocked) :
    true ∈ state.tableLocked ∨ next.lockSession = .awaitOkToUnlock := by
  unfold lockSessionStep at stepped
  split at stepped <;> (try split at stepped) <;> cases stepped <;> (try split at locked) <;>
    simp_all [CutOverState.lockFailed]

/-- The lock session sends on `tableUnlocked` only from its `UNLOCK TABLES` on, and
sends `true` only while its connection lives. -/
theorem lockSessionStep_tableUnlocked {state next : CutOverState} {succeeds : Bool}
    (stepped : lockSessionStep state succeeds = some next) :
    (next.lockSession.rank ≤ 9 → next.tableUnlocked = state.tableUnlocked) ∧
      (next.tableUnlocked = state.tableUnlocked ∨ next.tableUnlocked = state.tableUnlocked ++ [false] ∨
        (state.lockSessionAlive = true ∧ next.tableUnlocked = state.tableUnlocked ++ [true])) := by
  unfold lockSessionStep at stepped
  split at stepped <;> (try split at stepped) <;> cases stepped <;> (try split) <;>
    simp_all [CutOverState.lockFailed]

/-- While the lock session is between `LOCK TABLES` and `UNLOCK TABLES` with its
connection alive, it holds the table lock. -/
theorem lockSessionStep_tablesLocked {state next : CutOverState} {succeeds : Bool}
    (stepped : lockSessionStep state succeeds = some next)
    (held : 7 ≤ state.lockSession.rank → state.lockSession.rank ≤ 9 → state.lockSessionAlive = true →
      state.tablesLocked = true) :
    7 ≤ next.lockSession.rank → next.lockSession.rank ≤ 9 → next.lockSessionAlive = true →
      next.tablesLocked = true := by
  unfold lockSessionStep at stepped
  split at stepped <;> (try split at stepped) <;> cases stepped <;> (try split) <;>
    simp_all [CutOverState.lockFailed]

/-- Once the tables are swapped the lock session, past its lock and dead while it
would drop the sentry, leaves the catalog alone: `_del` is the original table. -/
theorem lockSessionStep_catalog {state next : CutOverState} {succeeds : Bool}
    (stepped : lockSessionStep state succeeds = some next) (swapped : state.catalog = .swapped)
    (past : 7 ≤ state.lockSession.rank) (dead : state.lockSession.rank ≤ 9 → state.lockSessionAlive = false) :
    next.catalog = .swapped := by
  unfold lockSessionStep at stepped
  split at stepped <;> (try split at stepped) <;> cases stepped <;> (try split) <;>
    simp_all [Catalog.swapped]

/-- The rename goroutine touches only itself, its channels, `tableRenameKnownToHaveFailed`
and `okToUnlockTable`; it runs once started and until it has returned. -/
theorem renameSessionStep_frame {state next : CutOverState} {succeeds : Bool}
    (stepped : renameSessionStep state succeeds = some next) :
    next.migrator = state.migrator ∧ next.lockSession = state.lockSession ∧
      next.tableLocked = state.tableLocked ∧ next.tableUnlocked = state.tableUnlocked ∧
      next.catalog = state.catalog ∧ next.lockSessionAlive = state.lockSessionAlive ∧
      next.tablesLocked = state.tablesLocked ∧ next.history = state.history ∧
      state.renameSession ≠ .notStarted ∧ state.renameSession ≠ .returned ∧ next.renameSession ≠ .notStarted := by
  unfold renameSessionStep at stepped
  split at stepped <;> (try split at stepped) <;> cases stepped <;> simp_all

/-- Only the goroutine's error path reports the failure, and it sends
`okToUnlockTable` with it. -/
theorem renameSessionStep_failed {state next : CutOverState} {succeeds : Bool}
    (stepped : renameSessionStep state succeeds = some next) :
    (next.tableRenameKnownToHaveFailed = state.tableRenameKnownToHaveFailed ∧
        next.okToUnlockTable = state.okToUnlockTable) ∨
      (state.renameSession = .abort ∧ next.renameSession = .returned ∧
        next.tableRenameKnownToHaveFailed = true ∧ next.tablesRenamed = state.tablesRenamed) := by
  unfold renameSessionStep at stepped
  split at stepped <;> (try split at stepped) <;> cases stepped <;> simp_all

/-- The goroutine sends only failures on `tablesRenamed`, none before its RENAME has
ended, and moves on from a pending RENAME, a failure and a success as the source does. -/
theorem renameSessionStep_tablesRenamed {state next : CutOverState} {succeeds : Bool}
    (stepped : renameSessionStep state succeeds = some next) :
    (next.tablesRenamed = state.tablesRenamed ∨ next.tablesRenamed = state.tablesRenamed ++ [false]) ∧
      state.renameSession.rank ≤ next.renameSession.rank ∧
      (next.renameSession.rank ≤ 5 → next.tablesRenamed = state.tablesRenamed) ∧
      (state.renameSession = .renamePending → next.renameSession = .deferred false) ∧
      (state.renameSession = .deferred false → next.renameSession = .abort) ∧
      (state.renameSession = .deferred true → next.renameSession = .returned) ∧
      (state.renameSession = .abort → next.renameSession = .returned ∧ next.tablesRenamed = state.tablesRenamed ∧
        next.tableRenameKnownToHaveFailed = true) := by
  unfold renameSessionStep at stepped
  split at stepped <;> (try split at stepped) <;> cases stepped <;> simp_all

/-- The server grants the waiting RENAME once the table lock is gone; it swaps the
names, or fails on an existing `_del`. -/
theorem grantRename_eq {state next : CutOverState} (stepped : grantRename state = some next) :
    state.renameSession = .renamePending ∧ state.tablesLocked = false ∧
      ((∃ catalog, state.catalog.rename = some catalog ∧
          next =
            { state with
              catalog := catalog, history := state.history ++ [.rename],
              tablesRenamed := state.tablesRenamed ++ [true], renameSession := .deferred true }) ∨
        (state.catalog.rename = none ∧
          next = { state with tablesRenamed := state.tablesRenamed ++ [false], renameSession := .deferred false })) := by
  unfold grantRename at stepped
  split at stepped
  · next waiting =>
    refine ⟨waiting.1, waiting.2, ?_⟩
    cases renamed : state.catalog.rename with
    | some catalog => simp_all
    | none => simp_all
  · cases stepped

theorem Catalog.rename_eq_some {catalog renamed : Catalog} (swapped : catalog.rename = some renamed) :
    catalog.old = none ∧ renamed = ⟨catalog.ghost, catalog.original, none⟩ := by
  unfold Catalog.rename at swapped
  split at swapped
  · next original ghost named absent present =>
    cases swapped
    simp [named, absent, present]
  · cases swapped

/-- The migrator only moves forward, and touches neither lock session nor catalog. -/
theorem migratorStep_frame {maxRetries : Nat} {state next : CutOverState} {succeeds : Bool}
    (stepped : migratorStep maxRetries state succeeds = some next) :
    state.migrator.rank ≤ next.migrator.rank ∧ next.migrator ≠ .awaitTableLocked ∧
      next.lockSession = state.lockSession ∧ next.catalog = state.catalog ∧
      next.lockSessionAlive = state.lockSessionAlive ∧ next.tablesLocked = state.tablesLocked ∧
      next.tableRenameKnownToHaveFailed = state.tableRenameKnownToHaveFailed ∧
      next.tableUnlocked <:+ state.tableUnlocked ∧ next.tablesRenamed <:+ state.tablesRenamed := by
  unfold migratorStep at stepped
  split at stepped <;> (repeat' split at stepped) <;> cases stepped <;>
    simp_all [CutOverState.migratorReturns]

section Migrator

variable {maxRetries : Nat} {state next : CutOverState} {succeeds : Bool}

/-- The migrator writes only the marker, at its `WriteChangelogState`. -/
theorem migratorStep_history (stepped : migratorStep maxRetries state succeeds = some next) :
    (next.history = state.history ∧ (3 ≤ next.migrator.rank → next.migrator.rank ≤ 8 → 3 ≤ state.migrator.rank)) ∨
      (state.migrator = .writeMarker ∧ next.migrator = .awaitEventsUpToLock ∧
        next.history = state.history ++ [.marker]) := by
  unfold migratorStep at stepped
  split at stepped <;> (repeat' split at stepped) <;> cases stepped <;>
    simp_all [CutOverState.migratorReturns]

/-- It starts the rename goroutine once it has seen the marker applied, and only then. -/
theorem migratorStep_renameSession (stepped : migratorStep maxRetries state succeeds = some next) :
    next.renameSession = state.renameSession ∨
      (state.migrator = .awaitEventsUpToLock ∧ next.migrator = .awaitRenameSessionId ∧
        next.renameSession = .begin) := by
  unfold migratorStep at stepped
  split at stepped <;> (repeat' split at stepped) <;> cases stepped <;>
    simp_all [CutOverState.migratorReturns]

/-- It sends `okToUnlockTable` only past `ExpectUsedLock` or on returning. -/
theorem migratorStep_okToUnlockTable (stepped : migratorStep maxRetries state succeeds = some next) :
    next.okToUnlockTable = state.okToUnlockTable ∨ 7 ≤ next.migrator.rank := by
  unfold migratorStep at stepped
  split at stepped <;> (repeat' split at stepped) <;> cases stepped <;>
    simp_all [CutOverState.migratorReturns]

/-- It gets past a channel read only with what the channel holds: the lock taken, the
table unlocked, the tables renamed. -/
theorem migratorStep_reads (stepped : migratorStep maxRetries state succeeds = some next) :
    (state.migrator = .awaitTableLocked → next.migrator.rank ≤ 8 → true ∈ state.tableLocked) ∧
      (next.migrator.rank ≤ 7 → next.tableUnlocked = state.tableUnlocked) ∧
      (state.migrator.rank ≤ 7 → 7 < next.migrator.rank →
        next.migrator = .returned false ∨ state.tableUnlocked.head? = some true) ∧
      (next.migrator.rank ≤ 8 → next.tablesRenamed = state.tablesRenamed) ∧
      (8 < next.migrator.rank → next.migrator = .returned false ∨ state.tablesRenamed.head? = some true) := by
  unfold migratorStep at stepped
  split at stepped <;> (repeat' split at stepped) <;> cases stepped <;>
    simp_all [CutOverState.migratorReturns]

/-- With `MaxRetries()` above zero it gets past `waitForRename` only when the RENAME is
known to have failed or is seen waiting. -/
theorem migratorStep_waitForRename (stepped : migratorStep maxRetries state succeeds = some next)
    (retries : 0 < maxRetries) (before : state.migrator.rank ≤ 5) (after : 6 ≤ next.migrator.rank)
    (running : next.migrator.rank ≤ 8) :
    state.tableRenameKnownToHaveFailed = true ∨ state.renameSession = .renamePending := by
  unfold migratorStep at stepped
  split at stepped <;> (repeat' split at stepped) <;> cases stepped <;>
    simp_all [CutOverState.migratorReturns]
  -- the check that passed: the RENAME known to have failed, or seen waiting
  rename_i passed
  exact passed.imp_right And.right

end Migrator

/-! ## States from which the cut-over cannot return nil -/

/-- The unlock the migrator has yet to read failed, or will: the lock session's
connection died before its `UNLOCK TABLES`. -/
def UnlockFails (state : CutOverState) : Prop :=
  state.migrator.rank ≤ 7 ∧
    (state.tableUnlocked.head? = some false ∨ (state.tableUnlocked = [] ∧ state.lockSessionAlive = false))

/-- The rename result the migrator has yet to read is a failure, or never comes. -/
def RenameFails (state : CutOverState) : Prop :=
  state.migrator.rank ≤ 8 ∧
    (state.tablesRenamed.head? = some false ∨
      (state.tablesRenamed = [] ∧ (state.renameSession = .deferred false ∨ state.renameSession = .abort ∨
        state.renameSession = .returned)))

/-- `atomicCutOver` can no longer return nil. -/
def BoundToFail (state : CutOverState) : Prop :=
  state.migrator = .returned false ∨ UnlockFails state ∨ RenameFails state

theorem BoundToFail.of_eq {state next : CutOverState} (doomed : BoundToFail state)
    (migrator : next.migrator = state.migrator) (unlocked : next.tableUnlocked = state.tableUnlocked)
    (alive : next.lockSessionAlive = state.lockSessionAlive) (renamed : next.tablesRenamed = state.tablesRenamed)
    (session : next.renameSession = state.renameSession) : BoundToFail next := by
  unfold BoundToFail UnlockFails RenameFails at *
  rw [migrator, unlocked, alive, renamed, session]
  exact doomed

theorem UnlockFails.lockSessionStep {state next : CutOverState} {succeeds : Bool}
    (stepped : lockSessionStep state succeeds = some next) (fails : UnlockFails state) : UnlockFails next := by
  obtain ⟨migrator, -, -, -, -, alive, -⟩ := lockSessionStep_frame stepped
  obtain ⟨-, unlocked⟩ := lockSessionStep_tableUnlocked stepped
  obtain ⟨running, reported⟩ := fails
  refine ⟨migrator ▸ running, ?_⟩
  rw [alive]
  rcases reported with head | ⟨empty, dead⟩
  · -- a failure already sent stays first
    left
    rcases unlocked with same | pushed | ⟨-, pushed⟩
    · rwa [same]
    · simp [pushed, head]
    · simp [pushed, head]
  · -- a dead session sends only failures
    rcases unlocked with same | pushed | ⟨living, -⟩
    · exact Or.inr ⟨same ▸ empty, dead⟩
    · exact Or.inl (by simp [pushed, empty])
    · simp [living] at dead

theorem BoundToFail.lockSessionStep {state next : CutOverState} {succeeds : Bool}
    (stepped : lockSessionStep state succeeds = some next) (doomed : BoundToFail state) : BoundToFail next := by
  obtain ⟨migrator, session, -, renamed, -⟩ := lockSessionStep_frame stepped
  rcases doomed with returned | unlock | rename
  · exact Or.inl (migrator ▸ returned)
  · exact Or.inr (Or.inl (unlock.lockSessionStep stepped))
  · unfold RenameFails at rename
    refine Or.inr (Or.inr ?_)
    unfold RenameFails
    rw [migrator, renamed, session]
    exact rename

theorem BoundToFail.killLockSession {state : CutOverState} (doomed : BoundToFail state) :
    BoundToFail { state with lockSessionAlive := false, tablesLocked := false, voluntaryLock := false } := by
  rcases doomed with returned | ⟨running, head | ⟨empty, -⟩⟩ | rename
  · exact Or.inl returned
  · exact Or.inr (Or.inl ⟨running, Or.inl head⟩)
  · exact Or.inr (Or.inl ⟨running, Or.inr ⟨empty, rfl⟩⟩)
  · exact Or.inr (Or.inr rename)

theorem BoundToFail.renameSessionStep {state next : CutOverState} {succeeds : Bool}
    (stepped : renameSessionStep state succeeds = some next) (doomed : BoundToFail state) : BoundToFail next := by
  obtain ⟨migrator, -, -, unlocked, -, alive, -, -, -, running, -⟩ := renameSessionStep_frame stepped
  obtain ⟨pushed, -, -, -, failing, -, aborting⟩ := renameSessionStep_tablesRenamed stepped
  unfold BoundToFail UnlockFails RenameFails at doomed ⊢
  rw [migrator, unlocked, alive]
  rcases doomed with returned | unlock | ⟨last, head | ⟨empty, ended⟩⟩
  · exact Or.inl returned
  · exact Or.inr (Or.inl unlock)
  · -- a failure already reported stays first
    refine Or.inr (Or.inr ⟨last, Or.inl ?_⟩)
    rcases pushed with same | more
    · rwa [same]
    · simp [more, head]
  · refine Or.inr (Or.inr ⟨last, ?_⟩)
    rcases ended with deferred | aborted | returned
    · -- the deferred function reports the failure, and the goroutine aborts
      rcases pushed with same | more
      · exact Or.inr ⟨same ▸ empty, Or.inr (Or.inl (failing deferred))⟩
      · exact Or.inl (by simp [more, empty])
    · -- the error path reports nothing on `tablesRenamed`
      obtain ⟨done, same, -⟩ := aborting aborted
      exact Or.inr ⟨same ▸ empty, Or.inr (Or.inr done)⟩
    · exact absurd returned running

/-- The server's answer to the waiting RENAME is sent after any failure already reported. -/
theorem BoundToFail.of_renameResult {state next : CutOverState} (doomed : BoundToFail state)
    (pending : state.renameSession = .renamePending) (migrator : next.migrator = state.migrator)
    (unlocked : next.tableUnlocked = state.tableUnlocked) (alive : next.lockSessionAlive = state.lockSessionAlive)
    (result : Bool) (renamed : next.tablesRenamed = state.tablesRenamed ++ [result]) : BoundToFail next := by
  unfold BoundToFail UnlockFails RenameFails at doomed ⊢
  rw [migrator, unlocked, alive, renamed]
  rcases doomed with returned | unlock | ⟨last, head | ⟨-, ended⟩⟩
  · exact Or.inl returned
  · exact Or.inr (Or.inl unlock)
  · exact Or.inr (Or.inr ⟨last, Or.inl (by simp [head])⟩)
  · rcases ended with ended | ended | ended <;> simp [pending] at ended

/-! ## The invariant -/

/-- What holds in every reachable state of the cut-over. -/
structure SafetyInvariant (state : CutOverState) : Prop where
  /-- the rename goroutine starts once the marker is seen applied -/
  renameNotStarted : state.migrator.rank ≤ 3 → state.renameSession = .notStarted
  failedReturned : state.tableRenameKnownToHaveFailed = true → state.renameSession = .returned
  renamedEmpty : state.renameSession.rank ≤ 5 → state.tablesRenamed = []
  /-- `true` on `tablesRenamed` comes from a RENAME that committed -/
  renamedTrue : true ∈ state.tablesRenamed → .rename ∈ state.history ∧
    state.tableRenameKnownToHaveFailed = false ∧
    (state.renameSession = .deferred true ∨ state.renameSession = .returned)
  catalogBefore : .rename ∉ state.history →
    state.catalog.original = some .originalTable ∧ state.catalog.ghost = some .ghostTable
  /-- the RENAME committed after the lock session took its lock, and after its
  connection died if it had not unlocked -/
  catalogAfter : .rename ∈ state.history → state.catalog = .swapped ∧ 7 ≤ state.lockSession.rank ∧
    (state.lockSession.rank ≤ 9 → state.lockSessionAlive = false)
  renameStarted : state.renameSession ≠ .notStarted →
    7 ≤ state.lockSession.rank ∧ (sinceMarker state.history).isSome
  lockTaken : 1 ≤ state.migrator.rank → state.migrator.rank ≤ 8 → 7 ≤ state.lockSession.rank
  lockHeld : 7 ≤ state.lockSession.rank → state.lockSession.rank ≤ 9 → state.lockSessionAlive = true →
    state.tablesLocked = true
  okToUnlockZero : state.migrator.rank ≤ 6 → state.tableRenameKnownToHaveFailed = false →
    state.okToUnlockTable = 0
  firstLock : state.migrator = .awaitTableLocked → true ∈ state.tableLocked →
    state.lockSession = .awaitOkToUnlock
  unlockedEmpty : state.lockSession.rank ≤ 9 → state.tableUnlocked = []
  /-- until the migrator sends `okToUnlockTable`, the lock session waits for it -/
  holding : 1 ≤ state.migrator.rank → state.migrator.rank ≤ 6 → state.tableRenameKnownToHaveFailed = false →
    state.lockSession = .awaitOkToUnlock
  /-- past `waitForRename` the RENAME waits, has committed, or has failed -/
  renameOutcome : 6 ≤ state.migrator.rank → state.migrator.rank ≤ 8 →
    state.renameSession = .renamePending ∨ .rename ∈ state.history ∨ state.renameSession = .deferred false ∨
      state.renameSession = .abort ∨ state.tableRenameKnownToHaveFailed = true
  markerMigrator : (sinceMarker state.history).isSome → 3 ≤ state.migrator.rank
  migratorMarker : 3 ≤ state.migrator.rank → state.migrator.rank ≤ 8 → (sinceMarker state.history).isSome
  renameAfterMarker : .rename ∈ state.history → ∃ later, sinceMarker state.history = some later ∧ .rename ∈ later
  returnedRenamed : state.migrator = .returned true → .rename ∈ state.history
  clean : ¬BoundToFail state → CleanSince state.history

theorem SafetyInvariant.start : SafetyInvariant CutOverState.start := by
  constructor <;> simp [CutOverState.start, Catalog.initial, sinceMarker, CleanSince]

namespace SafetyInvariant

variable {state next : CutOverState}

theorem notFailed_of_early (inv : SafetyInvariant state) (early : state.migrator.rank ≤ 3) :
    state.tableRenameKnownToHaveFailed = false := by
  cases failed : state.tableRenameKnownToHaveFailed
  · rfl
  · have notStarted := inv.renameNotStarted early
    rw [inv.failedReturned failed] at notStarted
    cases notStarted

theorem notFailed_of_running (inv : SafetyInvariant state) (running : state.renameSession ≠ .returned) :
    state.tableRenameKnownToHaveFailed = false := by
  cases failed : state.tableRenameKnownToHaveFailed
  · rfl
  · exact absurd (inv.failedReturned failed) running

/-- A RENAME that failed, or a rename goroutine on its error path, reports only failures. -/
theorem renameFails_of_failing (inv : SafetyInvariant state) (running : state.migrator.rank ≤ 8)
    (failing : state.renameSession = .deferred false ∨ state.renameSession = .abort ∨
      state.tableRenameKnownToHaveFailed = true) : RenameFails state := by
  have absent : true ∉ state.tablesRenamed := by
    intro present
    obtain ⟨-, notFailed, succeeded⟩ := inv.renamedTrue present
    rcases failing with deferred | aborted | failed
    · rcases succeeded with session | session <;> simp [deferred] at session
    · rcases succeeded with session | session <;> simp [aborted] at session
    · simp [failed] at notFailed
  refine ⟨running, ?_⟩
  cases reported : state.tablesRenamed with
  | nil =>
    refine Or.inr ⟨rfl, ?_⟩
    rcases failing with deferred | aborted | failed
    · exact Or.inl deferred
    · exact Or.inr (Or.inl aborted)
    · exact Or.inr (Or.inr (inv.failedReturned failed))
  | cons result rest =>
    left
    cases result
    · rfl
    · simp [reported] at absent

/-- From the marker on, a write to the original table is held off by the table lock or
by the waiting RENAME, or goes to the ghost table under the original name; or the
cut-over is bound to fail. -/
theorem guarded (inv : SafetyInvariant state) (marked : (sinceMarker state.history).isSome) :
    state.tablesLocked = true ∨ state.renameSession = .renamePending ∨
      state.catalog.original = some .ghostTable ∨ BoundToFail state := by
  have late := inv.markerMigrator marked
  have renameFails (fails : RenameFails state) : BoundToFail state := Or.inr (Or.inr fails)
  by_cases returned : 9 ≤ state.migrator.rank
  · -- the migrator has returned: an error, or nil after the RENAME
    obtain ⟨succeeded, atEnd⟩ := CutOverStep.eq_returned_of_rank returned
    cases succeeded
    · exact Or.inr (Or.inr (Or.inr (Or.inl atEnd)))
    · have swapped := (inv.catalogAfter (inv.returnedRenamed atEnd)).1
      exact Or.inr (Or.inr (Or.inl (by simp [swapped, Catalog.swapped])))
  by_cases checked : 6 ≤ state.migrator.rank
  · -- past `waitForRename`: the RENAME waits, has committed, or has failed
    rcases inv.renameOutcome checked (by omega) with pending | renamed | failing | failing | failing
    · exact Or.inr (Or.inl pending)
    · have swapped := (inv.catalogAfter renamed).1
      exact Or.inr (Or.inr (Or.inl (by simp [swapped, Catalog.swapped])))
    · exact Or.inr (Or.inr (Or.inr (renameFails (inv.renameFails_of_failing (by omega) (Or.inl failing)))))
    · exact Or.inr (Or.inr (Or.inr (renameFails (inv.renameFails_of_failing (by omega) (Or.inr (Or.inl failing))))))
    · exact Or.inr (Or.inr (Or.inr (renameFails (inv.renameFails_of_failing (by omega) (Or.inr (Or.inr failing))))))
  -- between the marker and `ExpectUsedLock`: the lock session waits holding the lock,
  -- unless its connection died or the rename goroutine let it go on failing
  cases failed : state.tableRenameKnownToHaveFailed
  · have waiting := inv.holding (by omega) (by omega) failed
    have atLock : state.lockSession.rank = 7 := by simp [waiting]
    cases alive : state.lockSessionAlive
    · -- its `UNLOCK TABLES` will report the failure
      exact Or.inr (Or.inr (Or.inr (Or.inr (Or.inl ⟨by omega, Or.inr ⟨inv.unlockedEmpty (by omega), alive⟩⟩))))
    · exact Or.inl (inv.lockHeld (by omega) (by omega) alive)
  · exact Or.inr (Or.inr (Or.inr (renameFails (inv.renameFails_of_failing (by omega) (Or.inr (Or.inr failed))))))

/-! ### The lock session, its death, and the rename goroutine -/

theorem lockSessionStep (inv : SafetyInvariant state) {succeeds : Bool}
    (stepped : GhOst.Logic.lockSessionStep state succeeds = some next) : SafetyInvariant next := by
  obtain ⟨migrator, session, -, renamed, failed, alive, history, original, ghost⟩ := lockSessionStep_frame stepped
  have forward := lockSessionStep_rank stepped
  obtain ⟨okFewer, okTaken⟩ := lockSessionStep_okToUnlockTable stepped
  obtain ⟨unlockedLate, -⟩ := lockSessionStep_tableUnlocked stepped
  -- before the migrator sends `okToUnlockTable`, a lock session waiting for it cannot move
  have stuck (early : state.migrator.rank ≤ 6) (notFailed : state.tableRenameKnownToHaveFailed = false)
      (waiting : state.lockSession = .awaitOkToUnlock) : False := by
    have sent := okTaken waiting
    rw [inv.okToUnlockZero early notFailed] at sent
    exact absurd sent (Nat.lt_irrefl 0)
  refine
    { renameNotStarted := by rw [migrator, session]; exact inv.renameNotStarted
      failedReturned := by rw [failed, session]; exact inv.failedReturned
      renamedEmpty := by rw [session, renamed]; exact inv.renamedEmpty
      renamedTrue := by rw [renamed, history, failed, session]; exact inv.renamedTrue
      catalogBefore := by rw [history, original, ghost]; exact inv.catalogBefore
      catalogAfter := fun present => ?_
      renameStarted := fun started => ?_
      lockTaken := fun first last => ?_
      lockHeld := lockSessionStep_tablesLocked stepped inv.lockHeld
      okToUnlockZero := fun early notFailed => ?_
      firstLock := fun initial locked => ?_
      unlockedEmpty := fun early => ?_
      holding := fun first last notFailed => ?_
      renameOutcome := by rw [migrator, session, history, failed]; exact inv.renameOutcome
      markerMigrator := by rw [history, migrator]; exact inv.markerMigrator
      migratorMarker := by rw [history, migrator]; exact inv.migratorMarker
      renameAfterMarker := by rw [history]; exact inv.renameAfterMarker
      returnedRenamed := by rw [migrator, history]; exact inv.returnedRenamed
      clean := fun notDoomed => by
        rw [history]
        exact inv.clean fun doomed => notDoomed (doomed.lockSessionStep stepped) }
  · rw [history] at present
    obtain ⟨swapped, past, dead⟩ := inv.catalogAfter present
    refine ⟨lockSessionStep_catalog stepped swapped past dead, Nat.le_trans past forward, fun late => ?_⟩
    rw [alive]
    exact dead (Nat.le_trans forward late)
  · rw [session] at started
    obtain ⟨past, marked⟩ := inv.renameStarted started
    exact ⟨Nat.le_trans past forward, history ▸ marked⟩
  · rw [migrator] at first last
    exact Nat.le_trans (inv.lockTaken first last) forward
  · rw [migrator] at early
    rw [failed] at notFailed
    have zero := inv.okToUnlockZero early notFailed
    omega
  · rw [migrator] at initial
    rcases lockSessionStep_tableLocked stepped locked with held | taken
    · exact (stuck (by simp [initial]) (inv.notFailed_of_early (by simp [initial]))
        (inv.firstLock initial held)).elim
    · exact taken
  · rw [unlockedLate early]
    exact inv.unlockedEmpty (Nat.le_trans forward early)
  · rw [migrator] at first last
    rw [failed] at notFailed
    exact (stuck last notFailed (inv.holding first last notFailed)).elim

theorem killLockSession (inv : SafetyInvariant state)
    (stepped : GhOst.Logic.killLockSession state = some next) : SafetyInvariant next := by
  obtain ⟨-, rfl⟩ := killLockSession_eq stepped
  exact
    { inv with
      catalogAfter := fun present =>
        ⟨(inv.catalogAfter present).1, (inv.catalogAfter present).2.1, fun _ => rfl⟩
      lockHeld := fun _ _ alive => by cases alive
      clean := fun notDoomed => inv.clean fun doomed => notDoomed doomed.killLockSession }

theorem renameSessionStep (inv : SafetyInvariant state) {succeeds : Bool}
    (stepped : GhOst.Logic.renameSessionStep state succeeds = some next) : SafetyInvariant next := by
  obtain ⟨migrator, lock, tableLocked, unlocked, catalog, alive, tablesLocked, history, started, running, -⟩ :=
    renameSessionStep_frame stepped
  obtain ⟨pushed, forward, early, pending, failing, succeeded, aborting⟩ :=
    renameSessionStep_tablesRenamed stepped
  have failedOrAbort := renameSessionStep_failed stepped
  -- the goroutine runs, so it has not reported its failure yet
  have notFailed := inv.notFailed_of_running running
  have noTrue (present : true ∈ next.tablesRenamed) : true ∈ state.tablesRenamed := by
    rcases pushed with same | more
    · rwa [same] at present
    · rw [more] at present
      simpa using present
  refine
    { renameNotStarted := fun early => absurd (inv.renameNotStarted (migrator ▸ early)) started
      failedReturned := fun failed => ?_
      renamedEmpty := fun isEarly => by rw [early isEarly]; exact inv.renamedEmpty (Nat.le_trans forward isEarly)
      renamedTrue := fun present => ?_
      catalogBefore := by rw [history, catalog]; exact inv.catalogBefore
      catalogAfter := by rw [history, catalog, lock, alive]; exact inv.catalogAfter
      renameStarted := fun _ => by rw [lock, history]; exact inv.renameStarted started
      lockTaken := by rw [migrator, lock]; exact inv.lockTaken
      lockHeld := by rw [lock, alive, tablesLocked]; exact inv.lockHeld
      okToUnlockZero := fun early failed => ?_
      firstLock := by rw [migrator, tableLocked, lock]; exact inv.firstLock
      unlockedEmpty := by rw [lock, unlocked]; exact inv.unlockedEmpty
      holding := fun first last _ => by rw [lock]; exact inv.holding (migrator ▸ first) (migrator ▸ last) notFailed
      renameOutcome := fun first last => ?_
      markerMigrator := by rw [history, migrator]; exact inv.markerMigrator
      migratorMarker := by rw [history, migrator]; exact inv.migratorMarker
      renameAfterMarker := by rw [history]; exact inv.renameAfterMarker
      returnedRenamed := by rw [migrator, history]; exact inv.returnedRenamed
      clean := fun notDoomed => by
        rw [history]
        exact inv.clean fun doomed => notDoomed (doomed.renameSessionStep stepped) }
  · rcases failedOrAbort with ⟨same, -⟩ | ⟨-, returned, -⟩
    · rw [same, notFailed] at failed
      cases failed
    · exact returned
  · obtain ⟨renamed, -, session⟩ := inv.renamedTrue (noTrue present)
    refine ⟨history ▸ renamed, ?_, Or.inr (session.resolve_right running |> succeeded)⟩
    rcases failedOrAbort with ⟨same, -⟩ | ⟨aborted, -⟩
    · rw [same, notFailed]
    · rcases session with session | session <;> simp [aborted] at session
  · rcases failedOrAbort with ⟨-, same⟩ | ⟨-, -, failed', -⟩
    · rw [same]
      exact inv.okToUnlockZero (migrator ▸ early) notFailed
    · rw [failed'] at failed
      cases failed
  · rw [migrator] at first last
    rw [history]
    rcases inv.renameOutcome first last with waiting | renamed | deferred | aborted | failed
    · exact Or.inr (Or.inr (Or.inl (pending waiting)))
    · exact Or.inr (Or.inl renamed)
    · exact Or.inr (Or.inr (Or.inr (Or.inl (failing deferred))))
    · exact Or.inr (Or.inr (Or.inr (Or.inr (aborting aborted).2.2)))
    · rw [notFailed] at failed
      cases failed

/-! ### The server and the clients -/

/-- The waiting RENAME commits: it is the first, onto a `_del` the lock session has
dropped, after the lock is gone. -/
theorem renameCommits (inv : SafetyInvariant state) (pending : state.renameSession = .renamePending)
    (unlocked : state.tablesLocked = false) {catalog : Catalog} (swapped : state.catalog.rename = some catalog) :
    SafetyInvariant
      { state with
        catalog := catalog, history := state.history ++ [.rename],
        tablesRenamed := state.tablesRenamed ++ [true], renameSession := .deferred true } := by
  have started : state.renameSession ≠ .notStarted := by simp [pending]
  obtain ⟨past, marked⟩ := inv.renameStarted started
  obtain ⟨later, found⟩ := Option.isSome_iff_exists.mp marked
  have notFailed := inv.notFailed_of_running (by simp [pending])
  -- once the tables are swapped `_del` exists and a RENAME fails, so this one is the first
  have first : .rename ∉ state.history := fun renamed => by
    rw [(inv.catalogAfter renamed).1] at swapped
    cases swapped
  obtain ⟨original, ghost⟩ := inv.catalogBefore first
  obtain ⟨-, rfl⟩ := Catalog.rename_eq_some swapped
  -- the lock is gone, so a lock session still inside it has died
  have dead (late : state.lockSession.rank ≤ 9) : state.lockSessionAlive = false := by
    cases alive : state.lockSessionAlive
    · rfl
    · have held := inv.lockHeld past late alive
      rw [unlocked] at held
      cases held
  refine
    { inv with
      renameNotStarted := fun early => absurd (inv.renameNotStarted early) started
      failedReturned := fun failed => by simp [notFailed] at failed
      renamedEmpty := fun early => by simp at early
      renamedTrue := fun _ => ⟨by simp, notFailed, Or.inl rfl⟩
      catalogBefore := fun absent => absurd (by simp) absent
      catalogAfter := fun _ => ⟨by simp [Catalog.swapped, original, ghost], past, dead⟩
      renameStarted := fun _ => ⟨past, isSome_sinceMarker_append marked _⟩
      renameOutcome := fun _ _ => Or.inr (Or.inl (by simp))
      markerMigrator := fun _ => inv.markerMigrator marked
      migratorMarker := fun _ _ => isSome_sinceMarker_append marked _
      renameAfterMarker := fun _ => ⟨later ++ [.rename], sinceMarker_append_of_some found _, by simp⟩
      returnedRenamed := fun _ => by simp
      clean := fun notDoomed after reached => ?_ }
  -- the RENAME is no write
  change sinceMarker (state.history ++ [.rename]) = some after at reached
  rw [sinceMarker_append_of_some found, Option.some.injEq] at reached
  subst reached
  have before := inv.clean (fun doomed => notDoomed (doomed.of_renameResult pending rfl rfl rfl true rfl)) later found
  simpa using before

/-- The waiting RENAME fails: the goroutine goes to its deferred function. -/
theorem renameRefused (inv : SafetyInvariant state) (pending : state.renameSession = .renamePending) :
    SafetyInvariant
      { state with tablesRenamed := state.tablesRenamed ++ [false], renameSession := .deferred false } := by
  have started : state.renameSession ≠ .notStarted := by simp [pending]
  have empty := inv.renamedEmpty (by simp [pending])
  have notFailed := inv.notFailed_of_running (by simp [pending])
  exact
    { inv with
      renameNotStarted := fun early => absurd (inv.renameNotStarted early) started
      failedReturned := fun failed => by simp [notFailed] at failed
      renamedEmpty := fun early => by simp at early
      renamedTrue := fun present => by simp [empty] at present
      renameStarted := fun _ => inv.renameStarted started
      renameOutcome := fun _ _ => Or.inr (Or.inr (Or.inl rfl))
      clean := fun notDoomed =>
        inv.clean fun doomed => notDoomed (doomed.of_renameResult pending rfl rfl rfl false rfl) }

theorem grantRename (inv : SafetyInvariant state) (stepped : GhOst.Logic.grantRename state = some next) :
    SafetyInvariant next := by
  obtain ⟨pending, unlocked, ⟨catalog, swapped, rfl⟩ | ⟨-, rfl⟩⟩ := grantRename_eq stepped
  · exact inv.renameCommits pending unlocked swapped
  · exact inv.renameRefused pending

theorem clientWrite (inv : SafetyInvariant state) (stepped : GhOst.Logic.clientWrite state = some next) :
    SafetyInvariant next := by
  obtain ⟨table, named, unlocked, notPending, rfl⟩ := clientWrite_eq stepped
  have grown {event : ServerEvent} (present : event ∈ state.history) : event ∈ state.history ++ [.dml table] :=
    List.mem_append_left _ present
  have renamedBefore (present : .rename ∈ state.history ++ [.dml table]) : .rename ∈ state.history := by
    simpa using present
  have markedBefore (marked : (sinceMarker (state.history ++ [.dml table])).isSome) :
      (sinceMarker state.history).isSome := by
    cases found : sinceMarker state.history with
    | none =>
      rw [sinceMarker_append_of_none found] at marked
      cases marked
    | some later => rfl
  refine
    { inv with
      renamedTrue := fun present =>
        ⟨grown (inv.renamedTrue present).1, (inv.renamedTrue present).2⟩
      catalogBefore := fun absent => inv.catalogBefore fun renamed => absent (grown renamed)
      catalogAfter := fun present => inv.catalogAfter (renamedBefore present)
      renameStarted := fun started =>
        ⟨(inv.renameStarted started).1, isSome_sinceMarker_append (inv.renameStarted started).2 _⟩
      renameOutcome := fun first last => (inv.renameOutcome first last).imp_right (Or.imp_left grown)
      markerMigrator := fun marked => inv.markerMigrator (markedBefore marked)
      migratorMarker := fun first last => isSome_sinceMarker_append (inv.migratorMarker first last) _
      renameAfterMarker := fun present => ?_
      returnedRenamed := fun returned => grown (inv.returnedRenamed returned)
      clean := fun notDoomed after reached => ?_ }
  · obtain ⟨later, found, committed⟩ := inv.renameAfterMarker (renamedBefore present)
    exact ⟨later ++ [.dml table], sinceMarker_append_of_some found _, List.mem_append_left _ committed⟩
  · change sinceMarker (state.history ++ [.dml table]) = some after at reached
    cases found : sinceMarker state.history with
    | none =>
      rw [sinceMarker_append_of_none found] at reached
      cases reached
    | some later =>
      rw [sinceMarker_append_of_some found, Option.some.injEq] at reached
      subst reached
      -- from the marker on, the write went to the ghost table
      have toGhost : table ≠ .originalTable := by
        rcases inv.guarded (by simp [found]) with locked | pending | swapped | doomed
        · rw [unlocked] at locked
          cases locked
        · exact absurd pending notPending
        · rw [named] at swapped
          cases swapped
          simp
        · exact absurd doomed notDoomed
      have before := inv.clean notDoomed later found
      simp [before, Ne.symm toGhost]

/-! ### The migrator -/

section Migrator

variable {maxRetries : Nat} {succeeds : Bool}

/-- The migrator starts the rename goroutine only at the marker, before which the
goroutine had not started. -/
theorem renameSession_migratorStep (inv : SafetyInvariant state)
    (stepped : GhOst.Logic.migratorStep maxRetries state succeeds = some next) :
    next.renameSession = state.renameSession ∨
      (state.renameSession = .notStarted ∧ state.migrator.rank = 3 ∧ next.migrator.rank = 4) := by
  rcases migratorStep_renameSession stepped with same | ⟨atMarker, started, -⟩
  · exact Or.inl same
  · exact Or.inr ⟨inv.renameNotStarted (by simp [atMarker]), by simp [atMarker], by simp [started]⟩

theorem boundToFail_migratorStep (inv : SafetyInvariant state)
    (stepped : GhOst.Logic.migratorStep maxRetries state succeeds = some next) (doomed : BoundToFail state) :
    BoundToFail next := by
  obtain ⟨-, -, -, -, alive, -⟩ := migratorStep_frame stepped
  obtain ⟨-, unlockedSame, unlockedRead, renamedSame, renamedRead⟩ := migratorStep_reads stepped
  rcases doomed with returned | ⟨running, reported⟩ | ⟨running, reported⟩
  · -- a migrator that has returned takes no step
    simp [GhOst.Logic.migratorStep, returned] at stepped
  · by_cases stays : next.migrator.rank ≤ 7
    · refine Or.inr (Or.inl ⟨stays, ?_⟩)
      rw [unlockedSame stays, alive]
      exact reported
    · -- reading the unlock, it finds no `true`: none is there or coming
      rcases unlockedRead running (by omega) with failedReturn | readTrue
      · exact Or.inl failedReturn
      · rcases reported with head | ⟨empty, -⟩
        · rw [head] at readTrue
          cases readTrue
        · rw [empty] at readTrue
          cases readTrue
  · by_cases stays : next.migrator.rank ≤ 8
    · refine Or.inr (Or.inr ⟨stays, ?_⟩)
      rw [renamedSame stays]
      rcases inv.renameSession_migratorStep stepped with same | ⟨notStarted, -, -⟩
      · rw [same]
        exact reported
      · -- the rename goroutine had not started: it had reported nothing
        have empty := inv.renamedEmpty (by simp [notStarted])
        rcases reported with head | ⟨-, ended⟩
        · rw [empty] at head
          cases head
        · rcases ended with ended | ended | ended <;> rw [notStarted] at ended <;> cases ended
    · rcases renamedRead (by omega) with failedReturn | readTrue
      · exact Or.inl failedReturn
      · rcases reported with head | ⟨empty, -⟩
        · rw [head] at readTrue
          cases readTrue
        · rw [empty] at readTrue
          cases readTrue

theorem isSome_sinceMarker_append_marker (history : List ServerEvent) :
    (sinceMarker (history ++ [.marker])).isSome := by
  cases found : sinceMarker history with
  | none => rw [sinceMarker_append_of_none found]; rfl
  | some later => rw [sinceMarker_append_of_some found]; rfl

theorem migratorStep (inv : SafetyInvariant state) (retries : 0 < maxRetries)
    (stepped : GhOst.Logic.migratorStep maxRetries state succeeds = some next) : SafetyInvariant next := by
  obtain ⟨forward, notInitial, lock, catalog, alive, tablesLocked, failed, unlockedSuffix, renamedSuffix⟩ :=
    migratorStep_frame stepped
  obtain ⟨lockRead, -, -, -, renamedRead⟩ := migratorStep_reads stepped
  have history := migratorStep_history stepped
  have ok := migratorStep_okToUnlockTable stepped
  -- the history only grows, by the marker
  have grown {event : ServerEvent} (present : event ∈ state.history) : event ∈ next.history := by
    rcases history with ⟨same, -⟩ | ⟨-, -, more⟩
    · rwa [same]
    · rw [more]
      exact List.mem_append_left _ present
  have renamedBefore (present : .rename ∈ next.history) : .rename ∈ state.history := by
    rcases history with ⟨same, -⟩ | ⟨-, -, more⟩
    · rwa [same] at present
    · rw [more] at present
      simpa using present
  have markedAfter (marked : (sinceMarker state.history).isSome) : (sinceMarker next.history).isSome := by
    rcases history with ⟨same, -⟩ | ⟨-, -, more⟩
    · rwa [same]
    · rw [more]
      exact isSome_sinceMarker_append marked _
  have fresh := inv.renameSession_migratorStep stepped
  -- past `awaitEventsUpToLock`, the rename goroutine is the one the migrator started
  have sameSession (late : 5 ≤ next.migrator.rank) : next.renameSession = state.renameSession := by
    rcases fresh with same | ⟨-, -, started⟩
    · exact same
    · omega
  -- a migrator past its first read has seen the lock taken
  have fromLock (last : next.migrator.rank ≤ 8) :
      1 ≤ state.migrator.rank ∨ state.lockSession = .awaitOkToUnlock := by
    by_cases taken : 1 ≤ state.migrator.rank
    · exact Or.inl taken
    · have initial : state.migrator = .awaitTableLocked := by
        cases waiting : state.migrator <;> simp_all
      exact Or.inr (inv.firstLock initial (lockRead initial last))
  refine
    { renameNotStarted := fun early => ?_
      failedReturned := fun reported => ?_
      renamedEmpty := fun early => ?_
      renamedTrue := fun present => ?_
      catalogBefore := fun absent => by
        rw [catalog]
        exact inv.catalogBefore fun renamed => absent (grown renamed)
      catalogAfter := fun present => by
        rw [catalog, lock, alive]
        exact inv.catalogAfter (renamedBefore present)
      renameStarted := fun started => ?_
      lockTaken := fun first last => ?_
      lockHeld := by rw [lock, alive, tablesLocked]; exact inv.lockHeld
      okToUnlockZero := fun early notFailed => ?_
      firstLock := fun initial => absurd initial notInitial
      unlockedEmpty := fun early => by
        rw [lock] at early
        exact List.suffix_nil.mp (inv.unlockedEmpty early ▸ unlockedSuffix)
      holding := fun first last notFailed => ?_
      renameOutcome := fun first last => ?_
      markerMigrator := fun marked => ?_
      migratorMarker := fun first last => ?_
      renameAfterMarker := fun present => ?_
      returnedRenamed := fun returned => ?_
      clean := fun notDoomed => ?_ }
  · rcases fresh with same | ⟨-, -, started⟩
    · rw [same]
      exact inv.renameNotStarted (Nat.le_trans forward early)
    · omega
  · rw [failed] at reported
    rcases fresh with same | ⟨notStarted, -, -⟩
    · rw [same]
      exact inv.failedReturned reported
    · rw [inv.failedReturned reported] at notStarted
      cases notStarted
  · suffices empty : state.tablesRenamed = [] from List.suffix_nil.mp (empty ▸ renamedSuffix)
    rcases fresh with same | ⟨notStarted, -, -⟩
    · rw [same] at early
      exact inv.renamedEmpty early
    · exact inv.renamedEmpty (by simp [notStarted])
  · obtain ⟨renamed, notFailed, ended⟩ := inv.renamedTrue (renamedSuffix.subset present)
    refine ⟨grown renamed, failed ▸ notFailed, ?_⟩
    rcases fresh with same | ⟨notStarted, -, -⟩
    · rw [same]
      exact ended
    · rw [notStarted] at ended
      rcases ended with ended | ended <;> cases ended
  · rw [lock]
    rcases fresh with same | ⟨-, atThree, -⟩
    · rw [same] at started
      exact ⟨(inv.renameStarted started).1, markedAfter (inv.renameStarted started).2⟩
    · exact ⟨inv.lockTaken (by omega) (by omega), markedAfter (inv.migratorMarker (by omega) (by omega))⟩
  · rw [lock]
    rcases fromLock last with taken | waiting
    · exact inv.lockTaken taken (Nat.le_trans forward last)
    · simp [waiting]
  · rw [failed] at notFailed
    rcases ok with same | late
    · rw [same]
      exact inv.okToUnlockZero (Nat.le_trans forward early) notFailed
    · omega
  · rw [lock]
    rw [failed] at notFailed
    rcases fromLock (by omega) with taken | waiting
    · exact inv.holding taken (Nat.le_trans forward last) notFailed
    · exact waiting
  · rw [sameSession (by omega), failed]
    by_cases checked : 6 ≤ state.migrator.rank
    · exact (inv.renameOutcome checked (Nat.le_trans forward last)).imp_right (Or.imp_left grown)
    · -- the step past `waitForRename`: the RENAME was known to have failed, or seen waiting
      rcases migratorStep_waitForRename stepped retries (by omega) first last with reported | pending
      · exact Or.inr (Or.inr (Or.inr (Or.inr reported)))
      · exact Or.inl pending
  · rcases history with ⟨same, -⟩ | ⟨-, atMarker, -⟩
    · rw [same] at marked
      exact Nat.le_trans (inv.markerMigrator marked) forward
    · simp [atMarker]
  · rcases history with ⟨same, back⟩ | ⟨-, -, more⟩
    · rw [same]
      exact inv.migratorMarker (back first last) (Nat.le_trans forward last)
    · rw [more]
      exact isSome_sinceMarker_append_marker _
  · obtain ⟨later, found, committed⟩ := inv.renameAfterMarker (renamedBefore present)
    rcases history with ⟨same, -⟩ | ⟨-, -, more⟩
    · rw [same]
      exact ⟨later, found, committed⟩
    · rw [more]
      exact ⟨later ++ [.marker], sinceMarker_append_of_some found _, List.mem_append_left _ committed⟩
  · rcases renamedRead (by simp [returned]) with failedReturn | readTrue
    · rw [returned] at failedReturn
      cases failedReturn
    · exact grown (inv.renamedTrue (List.mem_of_mem_head? readTrue)).1
  · have kept : ¬BoundToFail state := fun doomed => notDoomed (inv.boundToFail_migratorStep stepped doomed)
    rcases history with ⟨same, -⟩ | ⟨writing, -, more⟩
    · rw [same]
      exact inv.clean kept
    · -- the marker is the first: after it, nothing yet
      have unmarked : sinceMarker state.history = none := by
        cases found : sinceMarker state.history with
        | none => rfl
        | some later =>
          have late := inv.markerMigrator (by simp [found])
          simp [writing] at late
      intro after reached
      rw [more, sinceMarker_append_of_none unmarked] at reached
      cases reached
      simp

end Migrator

theorem step {maxRetries : Nat} (retries : 0 < maxRetries) (inv : SafetyInvariant state) {action : CutOverAction}
    (stepped : cutOverStep maxRetries state action = some next) : SafetyInvariant next := by
  cases action with
  | lockSession succeeds => exact inv.lockSessionStep stepped
  | killLockSession => exact inv.killLockSession stepped
  | renameSession succeeds => exact inv.renameSessionStep stepped
  | grantRename => exact inv.grantRename stepped
  | migrator succeeds => exact inv.migratorStep retries stepped
  | clientDML => exact inv.clientWrite stepped

end SafetyInvariant

/-! ## A nil return -/

/-- `NewMigrationContext`'s `defaultNumRetries`. -/
def defaultNumRetries : Int := 60

/-- `SetDefaultNumRetries`: a count that is not positive is ignored. -/
def setDefaultNumRetries (defaultNumRetries retries : Int) : Int :=
  if retries > 0 then retries else defaultNumRetries

/-- `MaxRetries()` is positive, whatever `SetDefaultNumRetries` was called with. -/
theorem maxRetries_pos (settings : List Int) : 0 < settings.foldl setDefaultNumRetries defaultNumRetries := by
  suffices kept : ∀ current, 0 < current → 0 < settings.foldl setDefaultNumRetries current from
    kept defaultNumRetries (by decide)
  induction settings with
  | nil => exact fun _ positive => positive
  | cons retries rest ih =>
    intro current positive
    apply ih
    unfold setDefaultNumRetries
    split <;> omega

/-- With `MaxRetries()` above zero, as `SetDefaultNumRetries` keeps it: whenever
`atomicCutOver` returns nil, in any interleaving of its goroutines with clients'
writes, failed statements and the death of the lock session's connection, the tables
are swapped, and the RENAME committed after the marker with no write to the original
table in between. -/
theorem cutOver_nil_is_clean {maxRetries : Nat} (retries : 0 < maxRetries) {actions : List CutOverAction}
    {final : CutOverState} (ran : runCutOver maxRetries actions = some final)
    (succeeded : final.migrator = .returned true) : final.catalog = .swapped ∧ CleanCutOver final.history := by
  have inv : SafetyInvariant final :=
    Lib.run_invariant (cutOverStep maxRetries) SafetyInvariant
      (fun _ _ _ held stepped => held.step retries stepped) SafetyInvariant.start ran
  have renamed := inv.returnedRenamed succeeded
  obtain ⟨later, found, committed⟩ := inv.renameAfterMarker renamed
  -- a migrator that returned nil is bound to no failure
  have notDoomed : ¬BoundToFail final := by
    rintro (failed | ⟨late, -⟩ | ⟨late, -⟩)
    · rw [succeeded] at failed
      cases failed
    · simp [succeeded] at late
    · simp [succeeded] at late
  refine ⟨(inv.catalogAfter renamed).1, ?_⟩
  unfold CleanCutOver
  rw [found]
  exact ⟨committed, inv.clean notDoomed later found⟩

/-- The lock, the marker, the RENAME seen waiting, the unlock, and the RENAME. -/
def cleanCutOver : List CutOverAction :=
  lockAndMark ++ [.renameSession true, .renameSession true, .renameSession true, .renameSession true,
    .migrator true, .migrator true, .migrator true, .lockSession true, .lockSession true, .lockSession true,
    .migrator true, .grantRename, .migrator true]

theorem cutOver_clean_schedule :
    ∃ final, runCutOver 60 cleanCutOver = some final ∧ final.catalog = .swapped ∧ CleanCutOver final.history :=
  ⟨_, rfl, @cutOver_nil_is_clean 60 (by decide) cleanCutOver _ rfl rfl⟩

/-- With no attempt at `ExpectProcess`, the migrator lets the lock go before the RENAME
is issued; a client writes the original table, and then the RENAME commits. -/
def renameAfterUnlock : List CutOverAction :=
  lockAndMark ++ [.renameSession true, .renameSession true, .migrator true, .migrator true, .migrator true,
    .lockSession true, .lockSession true, .lockSession true, .migrator true, .clientDML,
    .renameSession true, .renameSession true, .grantRename, .migrator true]

/-- The positive `MaxRetries()` is needed: at zero, `atomicCutOver` returns nil after a
write to the original table between the marker and the RENAME. -/
theorem cutOver_zero_retries_unclean :
    ∃ final, runCutOver 0 renameAfterUnlock = some final ∧ final.migrator = .returned true ∧
      ¬CleanCutOver final.history :=
  ⟨_, rfl, rfl, by decide⟩

end GhOst.Logic
