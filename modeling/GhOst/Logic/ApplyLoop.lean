import GhOst.Lib.Machine
import GhOst.Logic.Checkpoint
import GhOst.Logic.Server

/-! The write loop's side of `applyEventsQueue`: `executeWriteFuncs` takes the first struct
off the queue, and `onApplyEventStruct` either runs it, when it holds a write function, or
starts a batch with its DML event. The batch reads `len(applyEventsQueue)` once, caps it at
`DMLBatchSize - 1`, and pulls that many structs one at a time, stopping at the first that
holds no DML event; it applies the batch with `ApplyDMLEventQueries`, sets
`Applier.CurrentCoordinates` to the coordinates of the struct it started from, and then runs
the write function it stopped at. Producers (the binlog listener with DML events,
`onChangelogStateEvent` with the `AllEventsUpToLockProcessed` function) send at any time.

Over every interleaving, what the loop has done, what it holds, and what is still queued
spell out exactly what was sent, in order; so every struct is handled once, in queue
order, and a write function runs after every DML event sent before it and before every
DML event sent after it. `ApplyDMLEventQueries` and the write functions are taken to
succeed, so `retryOperation` runs each once. The row-copy queue, the throttler and the
heartbeat listener, which also writes `CurrentCoordinates` (`Logic.Checkpoint`), are left
out: none of them touches `applyEventsQueue`. -/

namespace GhOst.Logic

/-- `applyEventStruct`: a DML event with the coordinates of its binlog entry, or a write
function. -/
inductive ApplyEventStruct (Event Func Coords : Type) where
  | dml (event : Event) (coords : Coords)
  | func (writeFunc : Func)
  deriving DecidableEq, Repr

/-- The struct `newApplyEventStructByDML` makes of a DML event and its coordinates. -/
def ApplyEventStruct.ofDML {Event Func Coords : Type} (entry : Event × Coords) : ApplyEventStruct Event Func Coords :=
  .dml entry.1 entry.2

@[simp] theorem ApplyEventStruct.ofDML_mk {Event Func Coords : Type} (event : Event) (coords : Coords) :
    (ApplyEventStruct.ofDML (event, coords) : ApplyEventStruct Event Func Coords) = .dml event coords := rfl

/-- What the write loop has done: applied a batch of DML events, or run a write function. -/
inductive WriteEffect (Event Func Coords : Type) where
  | batch (events : List (Event × Coords))
  | ran (writeFunc : Func)
  deriving DecidableEq, Repr

/-- Where the write loop is. -/
inductive LoopPhase (Event Func Coords : Type) where
  /-- in the `select` of `executeWriteFuncs` -/
  | waiting
  /-- in the `for` loop of `onApplyEventStruct`, with the coordinates of the struct the batch
  started from, the batch so far, and the structs it may still pull -/
  | pulling (coords : Coords) (batch : List (Event × Coords)) (remaining : Nat)
  /-- out of the `for` loop at a struct without a DML event, which it holds -/
  | stopped (coords : Coords) (batch : List (Event × Coords)) (held : Func)
  deriving DecidableEq, Repr

/-- The queue, the loop, what it has done, and `Applier.CurrentCoordinates`. -/
structure ApplyLoop (Event Func Coords : Type) where
  queue : List (ApplyEventStruct Event Func Coords)
  phase : LoopPhase Event Func Coords
  effects : List (WriteEffect Event Func Coords)
  currentCoordinates : Option Coords
  deriving DecidableEq, Repr

/-- What happens next. -/
inductive LoopAction (Event Func Coords : Type) where
  /-- a producer's send on the channel completes -/
  | arrive (struct : ApplyEventStruct Event Func Coords)
  /-- the `select` receives the first struct -/
  | receive
  /-- the `for` loop receives the next struct -/
  | pull
  /-- `ApplyDMLEventQueries` on the batch, `CurrentCoordinates`, and the held function -/
  | apply
  deriving DecidableEq, Repr

variable {Event Func Coords : Type}

namespace ApplyLoop

/-- The loop waiting on an empty queue, with `CurrentCoordinates` unset. -/
def start : ApplyLoop Event Func Coords where
  queue := []
  phase := .waiting
  effects := []
  currentCoordinates := none

end ApplyLoop

section Step

variable (batchSize : Nat)

/-- One action; none when it cannot happen. A send waits while the channel holds
`MaxEventsBatchSize` structs, and a receive waits on an empty channel. `batchSize` is
`DMLBatchSize`, which the setters keep in `[1, MaxEventsBatchSize]`; for a batch size of 0
Go's `batchSize - 1` is -1 and the `for` loop pulls nothing, as the natural `0 - 1` does. -/
def loopStep (state : ApplyLoop Event Func Coords) : LoopAction Event Func Coords → Option (ApplyLoop Event Func Coords)
  | .arrive struct =>
    if state.queue.length < maxEventsBatchSize.toInt.toNat then some { state with queue := state.queue ++ [struct] }
    else none
  | .receive =>
    match state.phase, state.queue with
    | .waiting, .func writeFunc :: rest => some { state with queue := rest, effects := state.effects ++ [.ran writeFunc] }
    | .waiting, .dml event coords :: rest =>
      some { state with queue := rest, phase := .pulling coords [(event, coords)] (min rest.length (batchSize - 1)) }
    | _, _ => none
  | .pull =>
    match state.phase, state.queue with
    | .pulling coords batch (remaining + 1), .dml event eventCoords :: rest =>
      some { state with queue := rest, phase := .pulling coords (batch ++ [(event, eventCoords)]) remaining }
    | .pulling coords batch (_ + 1), .func writeFunc :: rest =>
      some { state with queue := rest, phase := .stopped coords batch writeFunc }
    | _, _ => none
  | .apply =>
    match state.phase with
    | .pulling coords batch 0 =>
      some { state with phase := .waiting, effects := state.effects ++ [.batch batch], currentCoordinates := some coords }
    | .stopped coords batch writeFunc =>
      some { state with phase := .waiting, effects := state.effects ++ [.batch batch, .ran writeFunc],
                        currentCoordinates := some coords }
    | _ => none

end Step

/-! ## What the loop accounts for -/

/-- The structs an effect handled, in the order they were queued. -/
def WriteEffect.structs : WriteEffect Event Func Coords → List (ApplyEventStruct Event Func Coords)
  | .batch events => events.map .ofDML
  | .ran writeFunc => [.func writeFunc]

/-- The structs the loop has taken off the queue and not yet handled. -/
def LoopPhase.held : LoopPhase Event Func Coords → List (ApplyEventStruct Event Func Coords)
  | .waiting => []
  | .pulling _ batch _ => batch.map .ofDML
  | .stopped _ batch writeFunc => batch.map .ofDML ++ [.func writeFunc]

/-- Every struct the state accounts for: handled, held, and still queued, in that order. -/
def ApplyLoop.accounted (state : ApplyLoop Event Func Coords) : List (ApplyEventStruct Event Func Coords) :=
  state.effects.flatMap WriteEffect.structs ++ state.phase.held ++ state.queue

/-- The structs the producers sent, in the order their sends completed. -/
def arrivals (actions : List (LoopAction Event Func Coords)) : List (ApplyEventStruct Event Func Coords) :=
  actions.filterMap fun
    | .arrive struct => some struct
    | _ => none

theorem arrivals_cons (action : LoopAction Event Func Coords) (rest : List (LoopAction Event Func Coords)) :
    arrivals (action :: rest) = arrivals [action] ++ arrivals rest := by
  cases action <;> rfl

/-- The coordinates of the first event of the last batch applied. -/
def lastBatchStart (effects : List (WriteEffect Event Func Coords)) : Option Coords :=
  effects.reverse.findSome? fun
    | .batch events => events.head?.map Prod.snd
    | .ran _ => none

@[simp] theorem lastBatchStart_append_ran (effects : List (WriteEffect Event Func Coords)) (writeFunc : Func) :
    lastBatchStart (effects ++ [.ran writeFunc]) = lastBatchStart effects := by
  simp [lastBatchStart]

@[simp] theorem lastBatchStart_append_batch (effects : List (WriteEffect Event Func Coords))
    (events : List (Event × Coords)) :
    lastBatchStart (effects ++ [.batch events]) = (events.head?.map Prod.snd).or (lastBatchStart effects) := by
  cases events <;> simp [lastBatchStart, List.findSome?_cons]

section Step

variable {batchSize : Nat}

/-- The transitions `loopStep` makes, one constructor per branch, so that proofs about a
step take its cases by name instead of unfolding the step. -/
inductive Transition (batchSize : Nat) :
    ApplyLoop Event Func Coords → LoopAction Event Func Coords → ApplyLoop Event Func Coords → Prop
  | arrive {state} (struct : ApplyEventStruct Event Func Coords) :
    Transition batchSize state (.arrive struct) { state with queue := state.queue ++ [struct] }
  | runFunc {queue effects coordinates} (writeFunc : Func) :
    Transition batchSize ⟨.func writeFunc :: queue, .waiting, effects, coordinates⟩ .receive
      ⟨queue, .waiting, effects ++ [.ran writeFunc], coordinates⟩
  | startBatch {queue effects coordinates} (event : Event) (coords : Coords) :
    Transition batchSize ⟨.dml event coords :: queue, .waiting, effects, coordinates⟩ .receive
      ⟨queue, .pulling coords [(event, coords)] (min queue.length (batchSize - 1)), effects, coordinates⟩
  | pullEvent {queue effects coordinates coords batch remaining} (event : Event) (eventCoords : Coords) :
    Transition batchSize ⟨.dml event eventCoords :: queue, .pulling coords batch (remaining + 1), effects, coordinates⟩
      .pull ⟨queue, .pulling coords (batch ++ [(event, eventCoords)]) remaining, effects, coordinates⟩
  | stopAt {queue effects coordinates coords batch remaining} (writeFunc : Func) :
    Transition batchSize ⟨.func writeFunc :: queue, .pulling coords batch (remaining + 1), effects, coordinates⟩
      .pull ⟨queue, .stopped coords batch writeFunc, effects, coordinates⟩
  | applyBatch {queue effects coordinates} (coords : Coords) (batch : List (Event × Coords)) :
    Transition batchSize ⟨queue, .pulling coords batch 0, effects, coordinates⟩ .apply
      ⟨queue, .waiting, effects ++ [.batch batch], some coords⟩
  | applyStopped {queue effects coordinates} (coords : Coords) (batch : List (Event × Coords)) (writeFunc : Func) :
    Transition batchSize ⟨queue, .stopped coords batch writeFunc, effects, coordinates⟩ .apply
      ⟨queue, .waiting, effects ++ [.batch batch, .ran writeFunc], some coords⟩

/-- Every step `loopStep` takes is one of the transitions. -/
theorem transition_of_loopStep {state next : ApplyLoop Event Func Coords} {action : LoopAction Event Func Coords}
    (stepped : loopStep batchSize state action = some next) : Transition batchSize state action next := by
  obtain ⟨queue, phase, effects, coordinates⟩ := state
  cases action with
  | arrive struct =>
    simp only [loopStep] at stepped
    split at stepped
    · cases stepped
      exact .arrive struct
    · cases stepped
  | receive =>
    simp only [loopStep] at stepped
    split at stepped
    · cases stepped
      exact .runFunc _
    · cases stepped
      exact .startBatch _ _
    · cases stepped
  | pull =>
    simp only [loopStep] at stepped
    split at stepped
    · cases stepped
      exact .pullEvent _ _
    · cases stepped
      exact .stopAt _
    · cases stepped
  | apply =>
    simp only [loopStep] at stepped
    split at stepped
    · cases stepped
      exact .applyBatch _ _
    · cases stepped
      exact .applyStopped _ _ _
    · cases stepped

/-- Every transition accounts for what it had and for the struct that arrived, if one
did: the loop only moves structs from the queue to what it holds and from there to its
effects. -/
theorem Transition.accounted {state next : ApplyLoop Event Func Coords} {action : LoopAction Event Func Coords}
    (step : Transition batchSize state action next) : next.accounted = state.accounted ++ arrivals [action] := by
  cases step with
  | arrive struct => simp [ApplyLoop.accounted, arrivals]
  | runFunc writeFunc => simp [ApplyLoop.accounted, arrivals, WriteEffect.structs, LoopPhase.held]
  | startBatch event coords => simp [ApplyLoop.accounted, arrivals, LoopPhase.held]
  | pullEvent event eventCoords => simp [ApplyLoop.accounted, arrivals, LoopPhase.held]
  | stopAt writeFunc => simp [ApplyLoop.accounted, arrivals, LoopPhase.held]
  | applyBatch coords batch => simp [ApplyLoop.accounted, arrivals, WriteEffect.structs, LoopPhase.held]
  | applyStopped coords batch writeFunc =>
    simp [ApplyLoop.accounted, arrivals, WriteEffect.structs, LoopPhase.held]

/-- Over a run, the structs accounted for grow by exactly the structs that arrived. -/
theorem run_accounted {state final : ApplyLoop Event Func Coords} {actions : List (LoopAction Event Func Coords)}
    (ran : Lib.run (loopStep batchSize) state actions = some final) :
    final.accounted = state.accounted ++ arrivals actions := by
  induction actions generalizing state with
  | nil =>
    cases ran
    simp [arrivals]
  | cons action rest ih =>
    cases stepped : loopStep batchSize state action with
    | none => simp [stepped] at ran
    | some next =>
      rw [Lib.run_of_step _ stepped] at ran
      rw [ih ran, (transition_of_loopStep stepped).accounted, List.append_assoc, ← arrivals_cons]

end Step

/-! ## The batches -/

/-- What the loop keeps of the batch it builds: the batch starts with the event of the
struct whose coordinates it carries, and with what it may still pull it fits the batch
size; what it may still pull is queued. -/
def PhaseInvariant (batchSize queued : Nat) : LoopPhase Event Func Coords → Prop
  | .waiting => True
  | .pulling coords batch remaining =>
    batch.head?.map Prod.snd = some coords ∧ batch.length + remaining ≤ max batchSize 1 ∧ remaining ≤ queued
  | .stopped coords batch _ => batch.head?.map Prod.snd = some coords ∧ batch.length ≤ max batchSize 1

/-- What every state the loop reaches satisfies: every batch applied is non-empty and fits
the batch size, the batch being built keeps `PhaseInvariant`, and `CurrentCoordinates` are
those of the first event of the last batch applied. -/
structure LoopInvariant (batchSize : Nat) (state : ApplyLoop Event Func Coords) : Prop where
  batches : ∀ events, WriteEffect.batch events ∈ state.effects → events ≠ [] ∧ events.length ≤ max batchSize 1
  phase : PhaseInvariant batchSize state.queue.length state.phase
  coordinates : state.currentCoordinates = lastBatchStart state.effects

theorem LoopInvariant.start (batchSize : Nat) : LoopInvariant batchSize (ApplyLoop.start : ApplyLoop Event Func Coords) where
  batches _ member := by simp [ApplyLoop.start] at member
  phase := trivial
  coordinates := rfl

theorem PhaseInvariant.mono {batchSize queued more : Nat} {phase : LoopPhase Event Func Coords}
    (holds : PhaseInvariant batchSize queued phase) (grown : queued ≤ more) : PhaseInvariant batchSize more phase := by
  cases phase with
  | waiting => trivial
  | pulling coords batch remaining => exact ⟨holds.1, holds.2.1, holds.2.2.trans grown⟩
  | stopped coords batch writeFunc => exact holds

theorem ne_nil_of_head?_map {batch : List (Event × Coords)} {coords : Coords}
    (first : batch.head?.map Prod.snd = some coords) : batch ≠ [] := by
  rintro rfl
  cases first

/-- An applied batch joins the batches: non-empty, within the batch size. -/
theorem batches_append {batchSize : Nat} {effects : List (WriteEffect Event Func Coords)}
    (holds : ∀ events, WriteEffect.batch events ∈ effects → events ≠ [] ∧ events.length ≤ max batchSize 1)
    {batch : List (Event × Coords)} (nonempty : batch ≠ []) (fits : batch.length ≤ max batchSize 1)
    (more : List (WriteEffect Event Func Coords)) (noBatch : ∀ events, WriteEffect.batch events ∉ more) :
    ∀ events, WriteEffect.batch events ∈ effects ++ WriteEffect.batch batch :: more →
      events ≠ [] ∧ events.length ≤ max batchSize 1 := by
  intro events member
  rcases List.mem_append.mp member with earlier | later
  · exact holds events earlier
  · rcases List.mem_cons.mp later with same | inMore
    · cases same
      exact ⟨nonempty, fits⟩
    · exact absurd inMore (noBatch events)

/-- Every transition keeps the invariant. -/
theorem Transition.invariant {batchSize : Nat} {state next : ApplyLoop Event Func Coords}
    {action : LoopAction Event Func Coords} (step : Transition batchSize state action next)
    (holds : LoopInvariant batchSize state) : LoopInvariant batchSize next := by
  obtain ⟨batches, phase, coordinates⟩ := holds
  cases step with
  | arrive struct =>
    refine ⟨batches, phase.mono ?_, coordinates⟩
    simp
  | runFunc writeFunc =>
    refine ⟨fun events member => batches events ?_, trivial, ?_⟩
    · simpa using member
    · simpa using coordinates
  | startBatch event coords =>
    refine ⟨batches, ⟨rfl, ?_, Nat.min_le_left _ _⟩, coordinates⟩
    simp only [List.length_singleton]
    omega
  | pullEvent event eventCoords =>
    obtain ⟨first, fits, queued⟩ := phase
    have nonempty := ne_nil_of_head?_map first
    refine ⟨batches, ⟨?_, ?_, ?_⟩, coordinates⟩
    · rw [List.head?_append_of_ne_nil _ nonempty]
      exact first
    · simp only [List.length_append, List.length_singleton]
      omega
    · simp only [List.length_cons] at queued
      dsimp only
      omega
  | stopAt writeFunc =>
    obtain ⟨first, fits, -⟩ := phase
    exact ⟨batches, ⟨first, by omega⟩, coordinates⟩
  | applyBatch coords batch =>
    obtain ⟨first, fits, -⟩ := phase
    refine ⟨batches_append batches (ne_nil_of_head?_map first) (by omega) [] (by simp), trivial, ?_⟩
    rw [lastBatchStart_append_batch, first]
    rfl
  | applyStopped coords batch writeFunc =>
    obtain ⟨first, fits⟩ := phase
    refine ⟨batches_append batches (ne_nil_of_head?_map first) fits [.ran writeFunc] (by simp), trivial, ?_⟩
    rw [← List.singleton_append, ← List.append_assoc, lastBatchStart_append_ran, lastBatchStart_append_batch, first]
    rfl

/-- Every state a run reaches from the start keeps the invariant. -/
theorem run_invariant {batchSize : Nat} {final : ApplyLoop Event Func Coords} {actions : List (LoopAction Event Func Coords)}
    (ran : Lib.run (loopStep batchSize) ApplyLoop.start actions = some final) : LoopInvariant batchSize final :=
  Lib.run_invariant (loopStep batchSize) (LoopInvariant batchSize)
    (fun _ _ _ holds stepped => (transition_of_loopStep stepped).invariant holds) (LoopInvariant.start batchSize) ran

/-- Inside a batch the loop never waits on the channel: in every state a run reaches where
it is building a batch, a pull or the apply can happen, because it pulls at most as many
structs as `len(applyEventsQueue)` reported. -/
theorem batch_never_blocks {batchSize : Nat} {actions : List (LoopAction Event Func Coords)}
    {state : ApplyLoop Event Func Coords} (ran : Lib.run (loopStep batchSize) ApplyLoop.start actions = some state)
    (busy : state.phase ≠ .waiting) :
    (loopStep batchSize state .pull).isSome ∨ (loopStep batchSize state .apply).isSome := by
  have phase := (run_invariant ran).phase
  obtain ⟨queue, phase', effects, coordinates⟩ := state
  cases phase' with
  | waiting => exact absurd rfl busy
  | stopped coords batch writeFunc => exact .inr rfl
  | pulling coords batch remaining =>
    cases remaining with
    | zero => exact .inr rfl
    | succ remaining =>
      -- the snapshot promised at least one more struct on the queue
      obtain ⟨-, -, queued⟩ := phase
      cases queue with
      | nil => simp at queued
      | cons struct rest =>
        left
        cases struct <;> rfl

/-- Two DML events queued before the loop receives the first: with a batch size of 2 it
has promised itself the second, and may pull it. -/
theorem batch_of_two_pulls_second : ∃ state,
    Lib.run (loopStep 2) (ApplyLoop.start : ApplyLoop Nat Unit Nat) [.arrive (.dml 1 1), .arrive (.dml 2 2), .receive] =
      some state ∧ state.phase ≠ .waiting ∧
    ((loopStep 2 state .pull).isSome ∨ (loopStep 2 state .apply).isSome) := by
  have ran : Lib.run (loopStep 2) (ApplyLoop.start : ApplyLoop Nat Unit Nat)
      [.arrive (.dml 1 1), .arrive (.dml 2 2), .receive] = some _ := rfl
  exact ⟨_, ran, by decide, batch_never_blocks ran (by decide)⟩

/-- The structs pulled one by one from a queue of DML events. -/
theorem run_pulls (batchSize : Nat) (coords : Coords) (effects : List (WriteEffect Event Func Coords))
    (coordinates : Option Coords) :
    ∀ (pulls : Nat) (batch events : List (Event × Coords)), pulls ≤ events.length →
      Lib.run (loopStep batchSize)
          ⟨events.map .ofDML, .pulling coords batch pulls, effects, coordinates⟩ (List.replicate pulls .pull) =
        some ⟨(events.drop pulls).map .ofDML, .pulling coords (batch ++ events.take pulls) 0, effects, coordinates⟩
  | 0, batch, events, _ => by simp
  | pulls + 1, batch, (event, eventCoords) :: events, enough => by
    have later := run_pulls batchSize coords effects coordinates pulls (batch ++ [(event, eventCoords)]) events
      (by simpa using enough)
    rw [List.replicate_succ, Lib.run_of_step _ rfl, later]
    simp

/-- With only DML events queued and no send in between, one batch applies the first
`batchSize` of them and sets the coordinates of the first: the batch as the single step
`applyEvents` of `Logic.Checkpoint`, which this loop refines. -/
theorem run_batch_of_dml {batchSize : Nat} (positive : 0 < batchSize) (first : Event × Coords)
    (events : List (Event × Coords)) (effects : List (WriteEffect Event Func Coords)) (coordinates : Option Coords) :
    Lib.run (loopStep batchSize)
        ⟨(first :: events).map .ofDML, .waiting, effects, coordinates⟩
        (.receive :: List.replicate (min events.length (batchSize - 1)) .pull ++ [.apply]) =
      some ⟨((first :: events).drop batchSize).map .ofDML, .waiting,
        effects ++ [.batch ((first :: events).take batchSize)], some first.2⟩ := by
  obtain ⟨event, coords⟩ := first
  obtain ⟨size, rfl⟩ : ∃ size, batchSize = size + 1 := ⟨batchSize - 1, by omega⟩
  -- the snapshot reads the queue behind the first event, and pulls at most `size` of it
  have taken : events.take (min events.length size) = events.take size := by
    rcases Nat.le_total events.length size with short | long
    · rw [Nat.min_eq_left short, List.take_length, List.take_of_length_le short]
    · rw [Nat.min_eq_right long]
  have dropped : events.drop (min events.length size) = events.drop size := by
    rcases Nat.le_total events.length size with short | long
    · rw [Nat.min_eq_left short, List.drop_length, List.drop_of_length_le short]
    · rw [Nat.min_eq_right long]
  rw [List.cons_append, Lib.run_of_step _ rfl, Lib.run_append]
  simp only [List.length_map, Nat.add_sub_cancel]
  rw [run_pulls (size + 1) coords effects coordinates _ [(event, coords)] events (Nat.min_le_left _ _)]
  simp [loopStep, taken, dropped]

/-- The struct the binlog listener queues for a row of the original table. -/
def rowStruct {Func : Type} (entry : BinlogEntry) : ApplyEventStruct BinlogEntry Func Nat :=
  .ofDML (entry, entry.coordinates)

/-- The coarse step `applyEvents` of `Logic.Checkpoint` is a run of the write loop: started
on the rows `applyEvents` finds queued, the loop applies as one batch exactly the rows
`applyEvents` adds to `applied`, leaves the rows it leaves, and sets `CurrentCoordinates`
where it sets them. -/
theorem applyEvents_refined {Func : Type} (binlog : List BinlogEvent) {batchSize : Nat} (positive : 0 < batchSize)
    {state next : Pipeline} (stepped : pipelineStep binlog batchSize state .applyEvents = some next)
    (effects : List (WriteEffect BinlogEntry Func Nat)) (coordinates : Option Nat) :
    ∃ actions, Lib.run (loopStep batchSize) ⟨state.applyEventsQueue.map rowStruct, .waiting, effects, coordinates⟩ actions =
      some ⟨next.applyEventsQueue.map rowStruct, .waiting,
        effects ++ [.batch ((next.applied.drop state.applied.length).map fun entry => (entry, entry.coordinates))],
        next.applierCoordinates⟩ := by
  simp only [pipelineStep] at stepped
  split at stepped
  · rename_i first rest queued
    cases stepped
    let entryOf := fun entry : BinlogEntry => (entry, entry.coordinates)
    refine ⟨.receive :: List.replicate (min rest.length (batchSize - 1)) .pull ++ [.apply], ?_⟩
    have batch := run_batch_of_dml positive (entryOf first) (rest.map entryOf) effects coordinates
    simp only [← List.map_cons, List.length_map, ← List.map_take, ← List.map_drop, List.map_map] at batch
    simp only [queued, List.drop_left']
    exact batch
  · cases stepped

/-- The two rows of one rows event, queued together. -/
def twoRowsQueued : Pipeline :=
  ⟨1, 1, [], [], [⟨.original, 0, 0, 1⟩, ⟨.original, 0, 1, 1⟩], [], none, none, []⟩

/-- With a batch size of 2 the pipeline's `applyEvents` takes both rows, and the write loop
applies them as one batch. -/
theorem two_rows_one_batch : ∃ next, pipelineStep twoRowEvent 2 twoRowsQueued .applyEvents = some next ∧
    ∃ actions, Lib.run (loopStep 2)
        ⟨twoRowsQueued.applyEventsQueue.map rowStruct, .waiting, ([] : List (WriteEffect BinlogEntry Unit Nat)), none⟩
        actions =
      some ⟨next.applyEventsQueue.map rowStruct, .waiting,
        [.batch ((next.applied.drop twoRowsQueued.applied.length).map fun entry => (entry, entry.coordinates))],
        next.applierCoordinates⟩ := by
  have stepped : pipelineStep twoRowEvent 2 twoRowsQueued .applyEvents = some _ := rfl
  exact ⟨_, stepped, applyEvents_refined twoRowEvent (by decide) stepped [] none⟩

end GhOst.Logic