import GhOst.Logic.Chunks
import GhOst.Lib.Machine
import Mathlib.Algebra.Order.Ring.Int

/-! The applier's connection pool and the session `time_zone` under which row copy
reads and binds its range values. `Applier.db` keeps up to `MaxDBPoolConnections`
connections and hands any idle one to the next statement; a connection goes back to
the pool with the session variables it was given. A new connection starts at the
server's `@@global.time_zone`, which is also `ApplierTimeZone`.
`ApplyDMLEventQueries` sets `time_zone = '+00:00'` on its connection and
`ApplyIterationInsertQuery` sets `ApplierTimeZone`; `ReadMigrationRangeValues`,
`CalculateNextIterationRangeEndValues` and `WriteCheckpoint` take the session as
they find it.

The range values are kept as the driver scans them: text. A `TIMESTAMP` key is an
instant, in seconds; a session shows it as the wall-clock reading in its zone, and
reads a bound text back in its zone. A zone is its offset from UTC in seconds. -/

namespace GhOst.Logic

/-- `MaxDBPoolConnections`. -/
def maxDBPoolConnections : Nat := 3

/-- A `TIMESTAMP` as a session in `zone` shows it. -/
def showTimestamp (zone instant : Int) : Int := instant + zone

/-- A bound `TIMESTAMP` text as a session in `zone` reads it. -/
def readTimestamp (zone text : Int) : Int := text - zone

@[simp] theorem readTimestamp_showTimestamp (zone instant : Int) :
    readTimestamp zone (showTimestamp zone instant) = instant := by
  simp [readTimestamp, showTimestamp]

@[simp] theorem showTimestamp_readTimestamp (zone text : Int) :
    showTimestamp zone (readTimestamp zone text) = text := by
  simp [readTimestamp, showTimestamp]

/-- The context with every range value converted. -/
def IterationContext.map {κ κ' : Type} (f : κ → κ') (context : IterationContext κ) : IterationContext κ' where
  migrationRangeMinValues := f context.migrationRangeMinValues
  migrationRangeMaxValues := f context.migrationRangeMaxValues
  migrationIterationRangeMinValues := context.migrationIterationRangeMinValues.map f
  migrationIterationRangeMaxValues := context.migrationIterationRangeMaxValues.map f
  lastIterationRangeMinValues := context.lastIterationRangeMinValues.map f
  lastIterationRangeMaxValues := context.lastIterationRangeMaxValues.map f
  iteration := context.iteration
  chunkSize := context.chunkSize

/-- A range with both ends converted. -/
def Chunk.map {κ κ' : Type} (f : κ → κ') (chunk : Chunk κ) : Chunk κ' :=
  ⟨f chunk.rangeStart, chunk.includeRangeStartValues, f chunk.rangeEnd⟩

/-- `CalculateNextIterationRangeEndValues` in a session in `zone`: the range start and
the table's maximum it binds are read in that zone, and the range end it scans is
shown in it; the values it only moves from field to field keep their text. -/
def calculateInTimeZone (keys : List Int) (zone : Int) (context : IterationContext Int) :
    Bool × IterationContext Int :=
  let (further, next) := calculateNextIterationRangeEndValues keys (context.map (readTimestamp zone))
  (further, next.map (showTimestamp zone))

/-- Where row copy is: `ReadMigrationRangeValues` before the write functions start,
then the copy function of `iterateChunks`, a calculation and its insert, until no
further range is found. -/
inductive RowCopyStep where
  | readMigrationRangeValues
  | calculateNextIterationRangeEndValues
  | applyIterationInsertQuery
  | rowCopyComplete
  deriving DecidableEq, Repr

/-- The pool's sessions, row copy, and what it has copied: the keys each insert took,
and the range each checkpoint wrote. -/
structure ApplierSessions where
  /-- the session `time_zone` of each open connection -/
  sessions : List Int
  rowCopy : RowCopyStep
  /-- the range values, as text; none before they are read -/
  context : Option (IterationContext Int)
  copied : List Int
  checkpoints : List (Int × Int)
  deriving DecidableEq, Repr

/-- Before row copy: no connection open yet. -/
def ApplierSessions.start : ApplierSessions :=
  ⟨[], .readMigrationRangeValues, none, [], []⟩

/-- What runs next: row copy's next statement, a batch of binlog events (from the
write loop, between copy functions), or a checkpoint (from its own goroutine). -/
inductive PoolStatement where
  | rowCopy
  | applyDMLEventQueries
  | writeCheckpoint
  deriving DecidableEq, Repr

/-- A statement and the connection the pool gives it: an open one by position, or, at
the position after the last, a new one. -/
structure PoolAction where
  statement : PoolStatement
  connection : Nat
  deriving DecidableEq, Repr

/-- The session a statement gets: the open connection at `connection`, or a new one
at the server's `@@global.time_zone` while fewer than `MaxDBPoolConnections` are open. -/
def acquireSession (globalTimeZone : Int) (sessions : List Int) (connection : Nat) : Option (List Int × Int) :=
  match sessions[connection]? with
  | some zone => some (sessions, zone)
  | none =>
    if connection = sessions.length ∧ sessions.length < maxDBPoolConnections then
      some (sessions ++ [globalTimeZone], globalTimeZone)
    else none

section Pool

variable (keys : List Int) (globalTimeZone : Int) (chunkSize : Nat)

/-- Row copy's next statement, in a session in `zone`; `setZone` sets the session's
`time_zone`. -/
def rowCopyStep (state : ApplierSessions) (sessions : List Int) (zone : Int) (setZone : Int → List Int) :
    Option ApplierSessions :=
  match state.rowCopy, state.context with
  | .readMigrationRangeValues, _ =>
    match readMigrationRangeValues keys with
    | (some rangeMin, some rangeMax) =>
      some { state with
        sessions := sessions, rowCopy := .calculateNextIterationRangeEndValues,
        context := some (startContext (showTimestamp zone rangeMin) (showTimestamp zone rangeMax) chunkSize) }
    | _ => some { state with sessions := sessions, rowCopy := .rowCopyComplete }
  | .calculateNextIterationRangeEndValues, some context =>
    match calculateInTimeZone keys zone context with
    | (true, next) => some { state with sessions := sessions, context := some next, rowCopy := .applyIterationInsertQuery }
    | (false, next) => some { state with sessions := sessions, context := some next, rowCopy := .rowCopyComplete }
  | .applyIterationInsertQuery, some context =>
    -- `SET SESSION time_zone = ApplierTimeZone`, then the chunk's `insert ... select`
    context.iterationRange.map fun chunk =>
      { state with
        sessions := setZone globalTimeZone,
        copied := state.copied ++ (chunk.map (readTimestamp globalTimeZone)).rows keys,
        context := some { context with iteration := context.iteration + 1 },
        rowCopy := .calculateNextIterationRangeEndValues }
  | _, _ => none

/-- One statement on the connection the pool hands out. -/
def poolStep (state : ApplierSessions) (action : PoolAction) : Option ApplierSessions :=
  (acquireSession globalTimeZone state.sessions action.connection).bind fun (sessions, zone) =>
    let setZone := sessions.set action.connection
    match action.statement with
    | .rowCopy => rowCopyStep keys globalTimeZone chunkSize state sessions zone setZone
    | .applyDMLEventQueries =>
      -- the write loop runs a batch between copy functions, once they have started
      if state.rowCopy = .calculateNextIterationRangeEndValues ∨ state.rowCopy = .rowCopyComplete then
        some { state with sessions := setZone 0 }
      else none
    | .writeCheckpoint =>
      -- the last iteration range, bound in this session
      match state.context.bind (·.lastIterationRangeMinValues), state.context.bind (·.lastIterationRangeMaxValues) with
      | some rangeMin, some rangeMax =>
        some { state with
          sessions := sessions,
          checkpoints := state.checkpoints ++ [(readTimestamp zone rangeMin, readTimestamp zone rangeMax)] }
      | _, _ => none

/-- The state a schedule of statements leads to. -/
def runPool (actions : List PoolAction) : Option ApplierSessions :=
  Lib.run (poolStep keys globalTimeZone chunkSize) ApplierSessions.start actions

end Pool


/-- `ReadMigrationRangeValues`, then a batch of binlog events before each copy
function, all on the one connection the pool keeps. -/
def copyAfterEvents : List PoolAction :=
  [⟨.rowCopy, 0⟩, ⟨.applyDMLEventQueries, 0⟩, ⟨.rowCopy, 0⟩, ⟨.rowCopy, 0⟩, ⟨.applyDMLEventQueries, 0⟩,
    ⟨.rowCopy, 0⟩]

/-- On a server at `+01:00`, a table whose `TIMESTAMP` keys are the instants 0 and
7200: the range is read at `+01:00`, each calculation runs at the `+00:00` the batch
before it left, the insert between them at `+01:00`; row copy completes having copied
only the row at 0. -/
theorem rowCopy_skips_timestamp_row :
    ∃ final, runPool [0, 7200] 3600 10 copyAfterEvents = some final ∧
      final.rowCopy = .rowCopyComplete ∧ final.copied = [0] :=
  ⟨_, rfl, rfl, rfl⟩

/-! ## A server at UTC

With `@@global.time_zone` at `+00:00`, every session the pool hands out is at
`+00:00`, whatever ran on it before; the range values keep their text, and row copy
through the pool copies the table as the zone-free `iterateChunks` does, whatever
batches of binlog events and checkpoints run between its statements. -/

/-- The session a statement gets is an open one, or a new one at the server's zone. -/
theorem acquireSession_eq {globalTimeZone : Int} {sessions acquired : List Int} {connection : Nat} {zone : Int}
    (got : acquireSession globalTimeZone sessions connection = some (acquired, zone)) :
    (acquired = sessions ∧ zone ∈ sessions) ∨ (acquired = sessions ++ [globalTimeZone] ∧ zone = globalTimeZone) := by
  unfold acquireSession at got
  split at got
  · next zone found =>
    cases got
    exact Or.inl ⟨rfl, List.mem_of_getElem? found⟩
  · split at got
    · cases got
      exact Or.inr ⟨rfl, rfl⟩
    · cases got

@[simp] theorem readTimestamp_zero (text : Int) : readTimestamp 0 text = text := by
  simp [readTimestamp]

@[simp] theorem showTimestamp_zero (instant : Int) : showTimestamp 0 instant = instant := by
  simp [showTimestamp]

theorem IterationContext.map_of_fixed {convert : Int → Int} (fixed : ∀ value, convert value = value)
    (context : IterationContext Int) : context.map convert = context := by
  obtain rfl : convert = id := funext fixed
  cases context
  simp [IterationContext.map]

theorem Chunk.map_of_fixed {convert : Int → Int} (fixed : ∀ value, convert value = value) (chunk : Chunk Int) :
    chunk.map convert = chunk := by
  simp [Chunk.map, fixed]

/-- At `+00:00` the calculation is the zone-free one. -/
theorem calculateInTimeZone_zero (keys : List Int) (context : IterationContext Int) :
    calculateInTimeZone keys 0 context = calculateNextIterationRangeEndValues keys context := by
  unfold calculateInTimeZone
  rw [IterationContext.map_of_fixed readTimestamp_zero]
  cases calculateNextIterationRangeEndValues keys context
  simp [IterationContext.map_of_fixed showTimestamp_zero]

/-- Where row copy stands, against `iterateChunks` over the same keys: before the
range is read, nothing copied; between chunks, at a `Position` with the keys before it
copied; after a calculation, one chunk past a `Position`, its range ending at the last
key of the next block; once complete, every key copied. -/
def CopyPhase (keys : List Int) (chunkSize : Nat) :
    RowCopyStep → Option (IterationContext Int) → List Int → Prop
  | .readMigrationRangeValues, none, copied => copied = []
  | .calculateNextIterationRangeEndValues, some context, copied =>
    context.chunkSize = chunkSize ∧ ∃ rest, Position keys context copied rest
  | .applyIterationInsertQuery, some context, copied =>
    ∃ before rest lastMin lastMax, ∃ block : rest.take before.chunkSize ≠ [],
      before.chunkSize = chunkSize ∧ Position keys before copied rest ∧
      context =
        { before with
          lastIterationRangeMinValues := lastMin, lastIterationRangeMaxValues := lastMax,
          migrationIterationRangeMinValues := some before.nextRangeStart,
          migrationIterationRangeMaxValues := some ((rest.take before.chunkSize).getLast block) }
  | .rowCopyComplete, _, copied => copied = keys
  | _, _, _ => False

/-- Every open session is at `+00:00`, and row copy stands at a `CopyPhase`. -/
structure CopyProgress (keys : List Int) (chunkSize : Nat) (state : ApplierSessions) : Prop where
  utc : ∀ zone ∈ state.sessions, zone = 0
  phase : CopyPhase keys chunkSize state.rowCopy state.context state.copied

theorem CopyProgress.start (keys : List Int) (chunkSize : Nat) :
    CopyProgress keys chunkSize ApplierSessions.start :=
  ⟨by simp [ApplierSessions.start], rfl⟩

theorem CopyPhase.copied_prefix {keys : List Int} {chunkSize : Nat} {rowCopy : RowCopyStep}
    {context : Option (IterationContext Int)} {copied : List Int} (phase : CopyPhase keys chunkSize rowCopy context copied) :
    copied <+: keys := by
  unfold CopyPhase at phase
  split at phase
  · rw [phase]
    exact List.nil_prefix
  · obtain ⟨-, rest, position⟩ := phase
    rw [position.split]
    exact List.prefix_append _ _
  · obtain ⟨before, rest, _, _, _, _, position, _⟩ := phase
    rw [position.split]
    exact List.prefix_append _ _
  · subst phase
    exact List.prefix_refl _
  · exact phase.elim

/-- Reading the range at `+00:00` starts the zone-free loop, or completes at once on an
empty table. -/
theorem CopyPhase.rangeRead {keys : List Int} {chunkSize : Nat} {state : ApplierSessions}
    (copied : state.copied = [])
    (reading : state.rowCopy = .readMigrationRangeValues) {sessions : List Int} {setZone : Int → List Int}
    {next : ApplierSessions} (stepped : rowCopyStep keys 0 chunkSize state sessions 0 setZone = some next) :
    CopyPhase keys chunkSize next.rowCopy next.context next.copied ∧ next.sessions = sessions := by
  simp only [rowCopyStep, reading] at stepped
  split at stepped
  · next rangeMin rangeMax range =>
    cases stepped
    refine ⟨⟨rfl, keys, ?_⟩, rfl⟩
    simpa [copied] using position_startContext range chunkSize
  · next noRange =>
    cases stepped
    refine ⟨?_, rfl⟩
    -- no range: the table is empty
    cases keys with
    | nil => exact copied
    | cons least more =>
      have range : readMigrationRangeValues (least :: more) =
          (some least, some ((least :: more).getLast (List.cons_ne_nil _ _))) := by
        simp [readMigrationRangeValues, List.getLast?_eq_some_getLast]
      exact (noRange _ _ range).elim

section Utc

variable {keys : List Int} (increasing : keys.Pairwise (· < ·)) {chunkSize : Nat}
include increasing

/-- A calculation at `+00:00` finds the end of the next block of keys, or, with none
left, completes with every key copied. -/
theorem CopyPhase.calculate {state : ApplierSessions} {context : IterationContext Int}
    (found : state.context = some context) (sized : context.chunkSize = chunkSize) (positive : 0 < chunkSize)
    {rest : List Int} (position : Position keys context state.copied rest)
    (calculating : state.rowCopy = .calculateNextIterationRangeEndValues) {sessions : List Int}
    {setZone : Int → List Int} {next : ApplierSessions}
    (stepped : rowCopyStep keys 0 chunkSize state sessions 0 setZone = some next) :
    CopyPhase keys chunkSize next.rowCopy next.context next.copied ∧ next.sessions = sessions := by
  obtain ⟨lastMin, lastMax, calculated⟩ := calculate_of_position increasing position (sized ▸ positive)
  simp only [rowCopyStep, calculating, found, calculateInTimeZone_zero, calculated] at stepped
  by_cases block : rest.take context.chunkSize = []
  · -- nothing left to copy
    simp only [block, List.getLast?_nil, Option.some.injEq] at stepped
    subst stepped
    refine ⟨?_, rfl⟩
    have finished : rest = [] := by
      simpa [Nat.pos_iff_ne_zero.mp (sized ▸ positive)] using block
    show state.copied = keys
    rw [position.split, finished, List.append_nil]
  · simp only [List.getLast?_eq_some_getLast block, Option.some.injEq] at stepped
    subst stepped
    exact ⟨⟨context, rest, lastMin, lastMax, block, sized, position, rfl⟩, rfl⟩

/-- The insert at `+00:00` copies the next block of keys, and row copy stands one chunk on. -/
theorem CopyPhase.insert {state : ApplierSessions} {before : IterationContext Int} {rest : List Int}
    {lastMin lastMax : Option Int} (block : rest.take before.chunkSize ≠ []) (sized : before.chunkSize = chunkSize)
    (position : Position keys before state.copied rest)
    (found : state.context = some
      { before with
        lastIterationRangeMinValues := lastMin, lastIterationRangeMaxValues := lastMax,
        migrationIterationRangeMinValues := some before.nextRangeStart,
        migrationIterationRangeMaxValues := some ((rest.take before.chunkSize).getLast block) })
    (inserting : state.rowCopy = .applyIterationInsertQuery) {sessions : List Int} {setZone : Int → List Int}
    {next : ApplierSessions} (stepped : rowCopyStep keys 0 chunkSize state sessions 0 setZone = some next) :
    CopyPhase keys chunkSize next.rowCopy next.context next.copied ∧ next.sessions = setZone 0 := by
  simp only [rowCopyStep, inserting, found, IterationContext.iterationRange, Option.map_some,
    Option.some.injEq] at stepped
  subst stepped
  -- the range from where the copy stands to the end of the next block is that block
  have whole : keys = state.copied ++ rest.take before.chunkSize ++ rest.drop before.chunkSize := by
    rw [List.append_assoc, List.take_append_drop]
    exact position.split
  have splits := position.splits increasing
  rw [← List.take_append_drop before.chunkSize rest] at splits
  obtain ⟨copiedBlock, -⟩ := filter_inIterationRange_block (whole ▸ increasing) splits block
  refine ⟨⟨sized, rest.drop before.chunkSize, ?_⟩, rfl⟩
  have rows : (Chunk.map (readTimestamp 0) ⟨before.nextRangeStart, before.iteration == 0,
      (rest.take before.chunkSize).getLast block⟩).rows keys = rest.take before.chunkSize := by
    rw [Chunk.map_of_fixed readTimestamp_zero, Chunk.rows, whole]
    exact copiedBlock
  rw [rows]
  exact position.advance block lastMin lastMax

/-- One statement on a pooled connection at `+00:00` keeps every session there and row
copy at a `CopyPhase`. -/
theorem CopyProgress.poolStep (positive : 0 < chunkSize) {state next : ApplierSessions} {action : PoolAction}
    (progress : CopyProgress keys chunkSize state)
    (stepped : GhOst.Logic.poolStep keys 0 chunkSize state action = some next) :
    CopyProgress keys chunkSize next := by
  obtain ⟨⟨sessions, zone⟩, got, stepped⟩ := Option.bind_eq_some_iff.mp stepped
  -- the session handed out is at `+00:00`, and so is every open one
  have opened : ∀ other ∈ sessions, other = 0 := by
    rcases acquireSession_eq got with ⟨same, -⟩ | ⟨more, -⟩
    · exact same ▸ progress.utc
    · rw [more]
      intro other member
      rcases List.mem_append.mp member with old | new
      · exact progress.utc other old
      · exact List.mem_singleton.mp new
  have atZero : zone = 0 := by
    rcases acquireSession_eq got with ⟨-, present⟩ | ⟨-, new⟩
    · exact progress.utc zone present
    · exact new
  subst atZero
  have reset : ∀ other ∈ sessions.set action.connection 0, other = 0 := fun other member =>
    (List.mem_or_eq_of_mem_set member).elim (opened other) id
  obtain ⟨-, phase⟩ := progress
  dsimp only at stepped
  cases statement : action.statement with
  | rowCopy =>
    rw [statement] at stepped
    cases current : state.rowCopy <;> cases context : state.context <;>
      simp only [CopyPhase, current, context] at phase
    · obtain ⟨phase, kept⟩ := CopyPhase.rangeRead phase current stepped
      exact ⟨kept ▸ opened, phase⟩
    · obtain ⟨sized, rest, position⟩ := phase
      obtain ⟨phase, kept⟩ := CopyPhase.calculate increasing context sized positive position current stepped
      exact ⟨kept ▸ opened, phase⟩
    · obtain ⟨before, rest, lastMin, lastMax, block, sized, position, rfl⟩ := phase
      obtain ⟨phase, kept⟩ := CopyPhase.insert increasing block sized position context current stepped
      exact ⟨kept ▸ reset, phase⟩
    all_goals simp [rowCopyStep, current] at stepped
  | applyDMLEventQueries =>
    simp only [statement] at stepped
    split at stepped
    · cases stepped
      exact ⟨reset, phase⟩
    · cases stepped
  | writeCheckpoint =>
    simp only [statement] at stepped
    split at stepped
    · cases stepped
      exact ⟨opened, phase⟩
    · cases stepped

end Utc

/-- On a server at `+00:00`, row copy through the pool copies the table as the
zone-free `iterateChunks` does, whatever batches of binlog events and checkpoints run
between its statements and on whichever connections: at every point it has copied the
keys in order up to where it stands, and once complete, every key exactly once. -/
theorem rowCopy_utc_copies_keys (keys : List Int) (increasing : keys.Pairwise (· < ·)) (chunkSize : Nat)
    (positive : 0 < chunkSize) {actions : List PoolAction} {final : ApplierSessions}
    (ran : runPool keys 0 chunkSize actions = some final) :
    final.copied <+: keys ∧ (final.rowCopy = .rowCopyComplete → final.copied = keys) := by
  have progress : CopyProgress keys chunkSize final :=
    Lib.run_invariant (poolStep keys 0 chunkSize) (CopyProgress keys chunkSize)
      (fun _ _ _ held stepped => held.poolStep increasing positive stepped) (CopyProgress.start keys chunkSize) ran
  refine ⟨progress.phase.copied_prefix, fun complete => ?_⟩
  have phase := progress.phase
  rw [complete] at phase
  exact phase

/-- The schedule of `rowCopy_skips_timestamp_row`, on a server at `+00:00`: both rows
are copied. -/
theorem rowCopy_utc_copies_both_rows :
    ∃ final, runPool [0, 7200] 0 10 copyAfterEvents = some final ∧ final.copied <+: [0, 7200] ∧
      (final.rowCopy = .rowCopyComplete → final.copied = [0, 7200]) :=
  ⟨_, rfl, @rowCopy_utc_copies_keys [0, 7200] (by decide) 10 (by decide) copyAfterEvents _ rfl⟩

end GhOst.Logic
