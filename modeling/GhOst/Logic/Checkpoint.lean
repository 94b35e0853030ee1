import GhOst.Lib.Blocks
import Mathlib.Data.List.Infix

/-! The path a binlog row takes to the ghost table, and what a checkpoint claims about
it. The reader (`GoMySQLReader.StreamEvents`) moves its coordinates to the end of
every event it reads and hands each row of a rows event, stamped with those
coordinates, to `eventsChannel`. One goroutine takes rows off the channel and calls
the listeners in turn: a row of the original table goes to `applyEventsQueue`, a
heartbeat row of the changelog table sets `Applier.CurrentCoordinates` at once. The
write loop (`onApplyEventStruct`) applies a batch of queued rows and then sets
`CurrentCoordinates` to the coordinates of the batch's first row. `Checkpoint` reads
the reader's coordinates and writes them once `CurrentCoordinates` has reached them.
File coordinates are positions in one binlog. -/

namespace GhOst.Logic

/-- The table a binlog row belongs to, as the listeners tell them apart. -/
inductive EntryTable where
  | original
  | changelogHeartbeat
  deriving DecidableEq, Repr

/-- A row as `handleRowsEvent` hands it on: its table, its place in the binlog (the
event and the row within it) and the coordinates of its rows event. -/
structure BinlogEntry where
  table : EntryTable
  event : Nat
  row : Nat
  coordinates : Nat
  deriving DecidableEq, Repr

/-- A binlog event: the position it ends at, and the rows it carries (none for an
XID, GTID or rotate event). -/
structure BinlogEvent where
  logPos : Nat
  rows : List EntryTable
  deriving DecidableEq, Repr

/-- `handleRowsEvent`: every row carries the coordinates the reader has just moved to,
the end of its event. -/
def entriesOf (index : Nat) (event : BinlogEvent) : List BinlogEntry :=
  event.rows.mapIdx fun row table => ⟨table, index, row, event.logPos⟩

/-- The rows of a stretch of the binlog whose first event has the given index. -/
def binlogEntries : List BinlogEvent → Nat → List BinlogEntry
  | [], _ => []
  | event :: later, index => entriesOf index event ++ binlogEntries later (index + 1)

/-- The pipeline's state: the reader's progress and coordinates, the rows of the event
it is handing on, the channel, the apply queue, the applied rows, the applier's
coordinates, the coordinates a running checkpoint waits for, and the checkpoints
written. -/
structure Pipeline where
  nextEvent : Nat
  readerCoordinates : Nat
  unsent : List BinlogEntry
  eventsChannel : List BinlogEntry
  applyEventsQueue : List BinlogEntry
  applied : List BinlogEntry
  applierCoordinates : Option Nat
  checkpointCoordinates : Option Nat
  written : List Nat
  deriving DecidableEq, Repr

/-- Streaming starts at `initialCoordinates`; `CurrentCoordinates` starts nil, which no
coordinates compare below. -/
def Pipeline.start (initialCoordinates : Nat) : Pipeline where
  nextEvent := 0
  readerCoordinates := initialCoordinates
  unsent := []
  eventsChannel := []
  applyEventsQueue := []
  applied := []
  applierCoordinates := none
  checkpointCoordinates := none
  written := []

/-- What one goroutine does next. -/
inductive PipelineAction where
  /-- the reader reads the next binlog event -/
  | readEvent
  /-- the reader puts the next row of its event on the channel -/
  | sendEntry
  /-- the streamer takes a row off the channel and calls the listeners -/
  | notifyListeners
  /-- the write loop applies a batch from the queue -/
  | applyEvents
  /-- `Checkpoint` reads the reader's coordinates -/
  | startCheckpoint
  /-- `Checkpoint` finds `CurrentCoordinates` caught up and writes -/
  | writeCheckpoint
  deriving DecidableEq, Repr

section Pipeline

variable (binlog : List BinlogEvent) (batchSize : Nat)

/-- One action; none when it cannot happen in this state. -/
def pipelineStep (state : Pipeline) : PipelineAction → Option Pipeline
  | .readEvent =>
    if state.unsent = [] then
      binlog[state.nextEvent]?.map fun event =>
        { state with nextEvent := state.nextEvent + 1, readerCoordinates := event.logPos,
                     unsent := entriesOf state.nextEvent event }
    else none
  | .sendEntry =>
    match state.unsent with
    | entry :: rest => some { state with unsent := rest, eventsChannel := state.eventsChannel ++ [entry] }
    | [] => none
  | .notifyListeners =>
    match state.eventsChannel with
    | entry :: rest =>
      match entry.table with
      | .original => some { state with eventsChannel := rest, applyEventsQueue := state.applyEventsQueue ++ [entry] }
      -- `onChangelogHeartbeatEvent` writes the applier's coordinates directly
      | .changelogHeartbeat => some { state with eventsChannel := rest, applierCoordinates := some entry.coordinates }
    | [] => none
  | .applyEvents =>
    -- the first queued row and up to `DMLBatchSize - 1` more
    match state.applyEventsQueue with
    | first :: _ =>
      some { state with applied := state.applied ++ state.applyEventsQueue.take batchSize,
                        applyEventsQueue := state.applyEventsQueue.drop batchSize,
                        applierCoordinates := some first.coordinates }
    | [] => none
  | .startCheckpoint =>
    match state.checkpointCoordinates with
    | none => some { state with checkpointCoordinates := some state.readerCoordinates }
    | some _ => none
  | .writeCheckpoint =>
    match state.checkpointCoordinates, state.applierCoordinates with
    | some coordinates, some current =>
      if coordinates ≤ current then
        some { state with checkpointCoordinates := none, written := state.written ++ [coordinates] }
      else none
    | _, _ => none

/-- A sequence of actions, each of which must be possible in turn. -/
def runPipeline : List PipelineAction → Pipeline → Option Pipeline
  | [], state => some state
  | action :: rest, state => (pipelineStep binlog batchSize state action).bind (runPipeline rest)

/-- Every written checkpoint is past applied rows only: every row of the original
table ending at or before its coordinates, which a stream restarted there would not
deliver again, has been applied. -/
def CheckpointsSafe (state : Pipeline) : Prop :=
  ∀ coordinates ∈ state.written, ∀ entry ∈ binlogEntries binlog 0,
    entry.table = .original → entry.coordinates ≤ coordinates → entry ∈ state.applied

instance : DecidablePred (CheckpointsSafe binlog) := fun state =>
  inferInstanceAs (Decidable (∀ coordinates ∈ state.written, ∀ entry ∈ binlogEntries binlog 0,
    entry.table = .original → entry.coordinates ≤ coordinates → entry ∈ state.applied))

/-! ## Where the rows are -/

theorem mem_binlogEntries {events : List BinlogEvent} {index : Nat} {entry : BinlogEntry}
    (member : entry ∈ binlogEntries events index) :
    ∃ event ∈ events, entry.table ∈ event.rows ∧ entry.coordinates = event.logPos := by
  induction events generalizing index with
  | nil => cases member
  | cons event later ih =>
    rcases List.mem_append.mp member with here | there
    · obtain ⟨row, bound, rfl⟩ := List.mem_mapIdx.mp here
      exact ⟨event, List.mem_cons_self, List.getElem_mem bound, rfl⟩
    · obtain ⟨source, present, table, coordinates⟩ := ih there
      exact ⟨source, List.mem_cons_of_mem event present, table, coordinates⟩

/-- Events of at most one row, at increasing positions, give rows at increasing
coordinates. -/
theorem binlogEntries_increasing {events : List BinlogEvent}
    (increasing : events.Pairwise fun a b => a.logPos < b.logPos)
    (single : ∀ event ∈ events, event.rows.length ≤ 1) (index : Nat) :
    (binlogEntries events index).Pairwise fun a b => a.coordinates < b.coordinates := by
  induction events generalizing index with
  | nil => exact List.Pairwise.nil
  | cons event later ih =>
    obtain ⟨first, rest⟩ := List.pairwise_cons.mp increasing
    refine List.pairwise_append.mpr ⟨?_, ih rest (fun e member => single e (List.mem_cons_of_mem _ member)) _, ?_⟩
    · -- one row at most: nothing to order
      have short : (entriesOf index event).length ≤ 1 := by
        simpa [entriesOf] using single event List.mem_cons_self
      match entries : entriesOf index event, short with
      | [], _ => exact List.Pairwise.nil
      | [_], _ => exact List.pairwise_singleton _ _
    · intro a here b there
      obtain ⟨row, _, rfl⟩ := List.mem_mapIdx.mp here
      obtain ⟨source, present, _, coordinates⟩ := mem_binlogEntries there
      rw [coordinates]
      exact first source present

/-! ## Checkpoints over binlogs of single rows -/

/-- What holds of every state the pipeline reaches from the start: the rows are, in
binlog order, applied, queued, on the channel, being handed on or not yet read; the
applier's coordinates are those of an applied row; and the checkpoints written are
safe. -/
structure Flowing (state : Pipeline) : Prop where
  order : state.applied ++ state.applyEventsQueue ++ state.eventsChannel ++ state.unsent ++
    binlogEntries (binlog.drop state.nextEvent) state.nextEvent = binlogEntries binlog 0
  current : ∀ coordinates, state.applierCoordinates = some coordinates →
    ∃ entry ∈ state.applied, entry.coordinates = coordinates
  safe : CheckpointsSafe binlog state

theorem flowing_start (initialCoordinates : Nat) : Flowing binlog (Pipeline.start initialCoordinates) where
  order := by simp [Pipeline.start]
  current := by simp [Pipeline.start]
  safe := by simp [CheckpointsSafe, Pipeline.start]

/-- Checkpoints stay safe while rows are only added to the applied ones. -/
theorem checkpointsSafe_of_applied {state next : Pipeline} (safe : CheckpointsSafe binlog state)
    (written : next.written = state.written) (kept : ∀ entry ∈ state.applied, entry ∈ next.applied) :
    CheckpointsSafe binlog next := by
  intro coordinates member entry present original before
  exact kept entry (safe coordinates (written ▸ member) entry present original before)

section Plain

variable {binlog} (increasing : binlog.Pairwise fun a b => a.logPos < b.logPos)
  (single : ∀ event ∈ binlog, event.rows = [] ∨ event.rows = [.original])

include single in
/-- Without heartbeat rows, every row in the pipeline is a row of the original table. -/
theorem table_of_flowing {state : Pipeline} (flowing : Flowing binlog state) {entry : BinlogEntry}
    (member : entry ∈ state.eventsChannel) : entry.table = .original := by
  have present : entry ∈ binlogEntries binlog 0 := by
    rw [← flowing.order]
    simp [member]
  obtain ⟨event, inBinlog, table, _⟩ := mem_binlogEntries present
  rcases single event inBinlog with empty | original
  · rw [empty] at table
    cases table
  · rw [original] at table
    simpa using table

include increasing single in
/-- A checkpoint the applier's coordinates have caught up with is safe. -/
theorem written_safe {state : Pipeline} (flowing : Flowing binlog state) {coordinates current : Nat}
    (applier : state.applierCoordinates = some current) (caughtUp : coordinates ≤ current) :
    ∀ entry ∈ binlogEntries binlog 0, entry.table = .original → entry.coordinates ≤ coordinates →
      entry ∈ state.applied := by
  intro entry present _ before
  obtain ⟨last, applied, same⟩ := flowing.current current applier
  have short : ∀ event ∈ binlog, event.rows.length ≤ 1 := fun event member => by
    rcases single event member with empty | original
    · simp [empty]
    · simp [original]
  have ordered := binlogEntries_increasing increasing short 0
  have leading : state.applied <+: binlogEntries binlog 0 := by
    rw [← flowing.order]
    simp only [List.append_assoc]
    exact List.prefix_append _ _
  exact Lib.mem_prefix_of_le ordered leading applied present (by omega)

include increasing single in
/-- Every action the pipeline can take keeps it flowing, for a batch size of at least one. -/
theorem flowing_step (positive : 0 < batchSize) {state next : Pipeline} (flowing : Flowing binlog state)
    {action : PipelineAction} (stepped : pipelineStep binlog batchSize state action = some next) :
    Flowing binlog next := by
  cases action with
  | readEvent =>
    simp only [pipelineStep] at stepped
    split at stepped
    · next unsent =>
      obtain ⟨event, found, rfl⟩ := Option.map_eq_some_iff.mp stepped
      obtain ⟨bound, same⟩ := List.getElem?_eq_some_iff.mp found
      have rest : binlog.drop state.nextEvent = event :: binlog.drop (state.nextEvent + 1) := by
        rw [List.drop_eq_getElem_cons bound, same]
      refine ⟨?_, flowing.current, flowing.safe⟩
      rw [← flowing.order, rest, unsent]
      simp [binlogEntries]
    · cases stepped
  | sendEntry =>
    simp only [pipelineStep] at stepped
    split at stepped
    · next entry rest unsent =>
      cases stepped
      refine ⟨?_, flowing.current, flowing.safe⟩
      rw [← flowing.order, unsent]
      simp
    · cases stepped
  | notifyListeners =>
    simp only [pipelineStep] at stepped
    split at stepped
    · next entry rest channel =>
      have original := table_of_flowing single flowing (channel ▸ List.mem_cons_self)
      simp only [original] at stepped
      cases stepped
      refine ⟨?_, flowing.current, flowing.safe⟩
      rw [← flowing.order, channel]
      simp
    · cases stepped
  | applyEvents =>
    simp only [pipelineStep] at stepped
    split at stepped
    · next first later queue =>
      cases stepped
      refine ⟨?_, fun coordinates set => ?_, checkpointsSafe_of_applied binlog flowing.safe rfl
        fun entry member => List.mem_append_left _ member⟩
      · rw [← flowing.order]
        simp only [List.append_assoc, List.take_append_drop]
      · cases set
        refine ⟨first, List.mem_append_right _ ?_, rfl⟩
        rw [queue]
        cases batchSize with
        | zero => omega
        | succ size => simp
    · cases stepped
  | startCheckpoint =>
    simp only [pipelineStep] at stepped
    split at stepped
    · cases stepped
      exact ⟨flowing.order, flowing.current, flowing.safe⟩
    · cases stepped
  | writeCheckpoint =>
    simp only [pipelineStep] at stepped
    split at stepped
    · next coordinates current waiting applier =>
      split at stepped
      · next caughtUp =>
        cases stepped
        refine ⟨flowing.order, flowing.current, ?_⟩
        intro written member
        rcases List.mem_append.mp member with old | new
        · exact flowing.safe written old
        · rw [List.mem_singleton.mp new]
          exact written_safe increasing single flowing applier caughtUp
      · cases stepped
    · cases stepped

include increasing single in
/-- Every run of actions keeps the pipeline flowing. -/
theorem flowing_runPipeline (positive : 0 < batchSize) :
    ∀ (actions : List PipelineAction) {state next : Pipeline}, Flowing binlog state →
      runPipeline binlog batchSize actions state = some next → Flowing binlog next
  | [], _, _, flowing, ran => by
    cases ran
    exact flowing
  | action :: rest, _, _, flowing, ran => by
    obtain ⟨middle, stepped, later⟩ := Option.bind_eq_some_iff.mp ran
    exact flowing_runPipeline positive rest (flowing_step batchSize increasing single positive flowing stepped) later

end Plain

end Pipeline

/-- A row of the original table at position 1, an XID at 2, and a heartbeat row at 3. -/
def rowThenHeartbeat : List BinlogEvent :=
  [⟨1, [.original]⟩, ⟨2, []⟩, ⟨3, [.changelogHeartbeat]⟩]

/-- One rows event with two rows of the original table. -/
def twoRowEvent : List BinlogEvent :=
  [⟨1, [.original, .original]⟩]

/-- Two ways a checkpoint is written past a row that has not been applied. The row at
position 1 waits in the apply queue when the heartbeat at 3 reaches its listener,
which moves `CurrentCoordinates` to 3; `Checkpoint`, reading the reader at 3, writes.
Or the write loop applies the first row of a two-row event before the second is
queued, and sets `CurrentCoordinates` to the event's coordinates, which the second
row shares. -/
theorem checkpoint_past_unapplied_row :
    (∃ state, runPipeline rowThenHeartbeat 10
        [.readEvent, .sendEntry, .notifyListeners, .readEvent, .readEvent, .sendEntry, .notifyListeners,
          .startCheckpoint, .writeCheckpoint] (Pipeline.start 0) = some state ∧
        ¬ CheckpointsSafe rowThenHeartbeat state) ∧
      (∃ state, runPipeline twoRowEvent 10
        [.readEvent, .sendEntry, .notifyListeners, .applyEvents, .startCheckpoint, .writeCheckpoint]
        (Pipeline.start 0) = some state ∧ ¬ CheckpointsSafe twoRowEvent state) :=
  ⟨⟨_, rfl, by decide⟩, ⟨_, rfl, by decide⟩⟩

end GhOst.Logic
