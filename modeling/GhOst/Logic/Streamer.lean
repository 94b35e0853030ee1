import GhOst.Lib.Machine
import Mathlib.Data.List.Basic
import Mathlib.Data.List.Flatten

/-! Reconnecting the binlog stream. `GoMySQLReader.StreamEvents` reads events one at a
time: with file coordinates it moves its current coordinates to the end of every
event, with GTIDs it adds each transaction's GTID to them; an XID event sets
`LastTrxCoords`, and every row of a rows event goes to the listeners. When reading
fails, `EventsStreamer.StreamEvents` reconnects a new reader at `LastTrxCoords`, or at
the streamer's initial coordinates while the reader has read no XID.

`ConnectBinlogStreamer` keeps the coordinates it is given as its current ones, and the
first reader is given the streamer's `initialBinlogCoordinates` itself, not a copy; the
reader then updates them in place. A reader's current coordinates are therefore
either the streamer's initial ones or its own.

The binlog is one file of transactions, each a GTID event, rows events and an XID
event; a file position is the number of events before it. With a GTID set the server
streams the transactions whose GTID the set lacks. -/

namespace GhOst.Logic

/-- A binlog event, as the reader tells them apart. -/
inductive StreamEvent where
  | gtid (gno : Nat)
  /-- a rows event and its rows -/
  | rows (rows : List Nat)
  | xid
  deriving DecidableEq, Repr

/-- A transaction: its GTID's number and its rows events. -/
structure Transaction where
  gno : Nat
  rowsEvents : List (List Nat)
  deriving DecidableEq, Repr

/-- A transaction's events, closed by its XID. -/
def Transaction.events (trx : Transaction) : List StreamEvent :=
  .gtid trx.gno :: trx.rowsEvents.map .rows ++ [.xid]

/-- A transaction's rows, in order. -/
def Transaction.rows (trx : Transaction) : List Nat :=
  trx.rowsEvents.flatten

/-- Binlog coordinates: a position in the binlog file, or a GTID set. -/
inductive Coordinates where
  | file (logPos : Nat)
  | gtid (gtidSet : List Nat)
  deriving DecidableEq, Repr

/-- `SmallerThan`: an earlier position; a GTID set that does not contain the other. -/
def Coordinates.smallerThan : Coordinates → Coordinates → Bool
  | .file logPos, .file other => logPos < other
  | .gtid gtidSet, .gtid other => !other.all (· ∈ gtidSet)
  | _, _ => false

/-- What the server streams from the coordinates: after a file position, the binlog's
events, each with the position it ends at; from a GTID set, the events of the
transactions the set lacks (their positions unused). -/
def serverStream (binlog : List Transaction) : Coordinates → List (StreamEvent × Nat)
  | .file logPos =>
    (((binlog.map Transaction.events).flatten.zipIdx).map fun (event, index) => (event, index + 1)).drop logPos
  | .gtid gtidSet =>
    ((binlog.filter fun trx => trx.gno ∉ gtidSet).map Transaction.events).flatten.map (·, 0)

/-- A `GoMySQLReader` and its connection. -/
structure Reader where
  /-- the events the connection has yet to deliver -/
  stream : List (StreamEvent × Nat)
  /-- whether `currentCoordinates` is the streamer's `initialBinlogCoordinates` object -/
  currentIsInitial : Bool
  /-- `currentCoordinates`, when it is the reader's own object -/
  ownCoordinates : Coordinates
  lastTrxCoords : Option Coordinates
  /-- the syncer's current GTID set, which it gives each XID event -/
  syncerGtidSet : List Nat
  deriving DecidableEq, Repr

/-- The streamer: its initial coordinates, its reader, the rows it has delivered to
the listeners, and `successiveFailures`; `streaming` turns false when it gives up. -/
structure Streamer where
  initialBinlogCoordinates : Coordinates
  reader : Reader
  delivered : List Nat
  successiveFailures : Nat
  streaming : Bool
  deriving DecidableEq, Repr

section Stream

variable (binlog : List Transaction) (useGTIDs : Bool)

/-- `ConnectBinlogStreamer`: a new reader with no `LastTrxCoords`, whose current
coordinates are the object it is given. -/
def connectReader (coordinates : Coordinates) (currentIsInitial : Bool) : Reader where
  stream := serverStream binlog coordinates
  currentIsInitial := currentIsInitial
  ownCoordinates := coordinates
  lastTrxCoords := none
  syncerGtidSet := match coordinates with
    | .gtid gtidSet => gtidSet
    | .file _ => []

/-- `InitDBConnections`: the first reader is given `initialBinlogCoordinates` itself. -/
def Streamer.start (initialBinlogCoordinates : Coordinates) : Streamer where
  initialBinlogCoordinates := initialBinlogCoordinates
  reader := connectReader binlog initialBinlogCoordinates true
  delivered := []
  successiveFailures := 0
  streaming := true

/-- The reader's current coordinates. -/
def Streamer.currentCoordinates (state : Streamer) : Coordinates :=
  if state.reader.currentIsInitial then state.initialBinlogCoordinates else state.reader.ownCoordinates

/-- An update of the reader's current coordinates in place: of the initial ones when
those are what it holds. -/
def Streamer.updateCurrent (state : Streamer) (update : Coordinates → Coordinates) : Streamer :=
  if state.reader.currentIsInitial then
    { state with initialBinlogCoordinates := update state.initialBinlogCoordinates }
  else { state with reader := { state.reader with ownCoordinates := update state.reader.ownCoordinates } }

/-- `coords.LogPos = ev.Header.LogPos`. -/
def setLogPos (logPos : Nat) : Coordinates → Coordinates
  | .file _ => .file logPos
  | coordinates => coordinates

/-- A GTID set with one more GTID. -/
def addToGtidSet (gno : Nat) (gtidSet : List Nat) : List Nat :=
  if gno ∈ gtidSet then gtidSet else gtidSet ++ [gno]

/-- `coords.GTIDSet.AddSet` of one GTID. -/
def addGtid (gno : Nat) : Coordinates → Coordinates
  | .gtid gtidSet => .gtid (addToGtidSet gno gtidSet)
  | coordinates => coordinates

/-- The GTID event's handling: from the second transaction on, the current
coordinates restart from `LastTrxCoords`; the GTID goes into them, and into the
syncer's set. -/
def Streamer.onGtid (state : Streamer) (gno : Nat) : Streamer :=
  let restarted := match state.reader.lastTrxCoords with
    | some last => { state with reader := { state.reader with currentIsInitial := false, ownCoordinates := last } }
    | none => state
  let synced := { restarted with reader := { restarted.reader with
    syncerGtidSet := addToGtidSet gno restarted.reader.syncerGtidSet } }
  synced.updateCurrent (addGtid gno)

/-- The XID event's handling: `LastTrxCoords` is the syncer's GTID set, or a copy of
the current file coordinates. -/
def Streamer.onXid (state : Streamer) : Streamer :=
  let lastTrxCoords := if useGTIDs then Coordinates.gtid state.reader.syncerGtidSet else state.currentCoordinates
  { state with reader := { state.reader with lastTrxCoords := some lastTrxCoords } }

/-- An event's handling, once file coordinates have moved to its end. -/
def Streamer.handleEvent (state : Streamer) : StreamEvent → Streamer
  | .gtid gno => if useGTIDs then state.onGtid gno else state
  | .xid => state.onXid useGTIDs
  | .rows rows => { state with delivered := state.delivered ++ rows }

/-- One pass of the reader's loop: `GetEvent`, then the event's handling. -/
def readEvent (state : Streamer) : Option Streamer :=
  match state.reader.stream with
  | [] => none
  | (event, logPos) :: rest =>
    let state := { state with reader := { state.reader with stream := rest } }
    -- file coordinates move with every event
    let state := if useGTIDs then state else state.updateCurrent (setLogPos logPos)
    some (state.handleEvent useGTIDs event)

variable (maxReconnectAttempts : Nat)

/-- `GetEvent` fails: the streamer gives up after too many successive failures, and
otherwise reconnects a new reader at `LastTrxCoords`, or at a copy of the initial
coordinates. -/
def reconnect (state : Streamer) : Option Streamer :=
  if !state.streaming then none
  else if 0 < maxReconnectAttempts ∧ maxReconnectAttempts ≤ state.successiveFailures then
    some { state with streaming := false }
  else
    let reconnectCoords := state.reader.lastTrxCoords.getD state.initialBinlogCoordinates
    let successiveFailures :=
      if reconnectCoords.smallerThan state.currentCoordinates then 0 else state.successiveFailures + 1
    some { state with reader := connectReader binlog reconnectCoords false, successiveFailures }

/-- What happens next: an event is read, or reading it fails. -/
inductive StreamAction where
  | readEvent
  | fail
  deriving DecidableEq, Repr

def streamStep (state : Streamer) : StreamAction → Option Streamer
  | .readEvent => if state.streaming then readEvent useGTIDs state else none
  | .fail => reconnect binlog maxReconnectAttempts state

/-- The streamer after a schedule of reads and failures. -/
def runStreamer (initialBinlogCoordinates : Coordinates) (actions : List StreamAction) : Option Streamer :=
  Lib.run (streamStep binlog useGTIDs maxReconnectAttempts) (Streamer.start binlog initialBinlogCoordinates) actions

end Stream

/-! ## A failure inside the first transaction, with GTIDs -/

/-- Two transactions: the first with two rows events of one row each, the second
with one. -/
def twoTransactions : List Transaction := [⟨1, [[1], [2]]⟩, ⟨2, [[3]]⟩]

/-- The first transaction's GTID is in the set, so neither it nor its row 2 will be
streamed again: what holds once the initial coordinates have been given that GTID. -/
structure FirstTransactionSkipped (state : Streamer) : Prop where
  initial : ∃ gtidSet, state.initialBinlogCoordinates = .gtid gtidSet ∧ 1 ∈ gtidSet
  last : ∀ last ∈ state.reader.lastTrxCoords, ∃ gtidSet, last = .gtid gtidSet ∧ 1 ∈ gtidSet
  syncer : 1 ∈ state.reader.syncerGtidSet
  stream : ∀ entry ∈ state.reader.stream, entry.1 ∈ (⟨2, [[3]]⟩ : Transaction).events
  lost : 2 ∉ state.delivered

theorem mem_addToGtidSet_of_mem {gno member : Nat} {gtidSet : List Nat} (present : member ∈ gtidSet) :
    member ∈ addToGtidSet gno gtidSet := by
  unfold addToGtidSet
  split
  · exact present
  · exact List.mem_append_left _ present

/-- A GTID event leaves the initial coordinates alone, or adds its GTID to them. -/
theorem onGtid_initialBinlogCoordinates (state : Streamer) (gno : Nat) :
    (state.onGtid gno).initialBinlogCoordinates = state.initialBinlogCoordinates ∨
      (state.onGtid gno).initialBinlogCoordinates = addGtid gno state.initialBinlogCoordinates := by
  unfold Streamer.onGtid Streamer.updateCurrent
  cases last : state.reader.lastTrxCoords <;> by_cases current : state.reader.currentIsInitial <;>
    simp [last, current]

@[simp] theorem onGtid_reader (state : Streamer) (gno : Nat) :
    (state.onGtid gno).reader.stream = state.reader.stream ∧
      (state.onGtid gno).reader.lastTrxCoords = state.reader.lastTrxCoords ∧
      (state.onGtid gno).reader.syncerGtidSet = addToGtidSet gno state.reader.syncerGtidSet ∧
      (state.onGtid gno).delivered = state.delivered := by
  unfold Streamer.onGtid Streamer.updateCurrent
  cases last : state.reader.lastTrxCoords <;> by_cases current : state.reader.currentIsInitial <;>
    simp [last, current]

/-- A read takes the stream's next event and handles it. -/
theorem readEvent_eq_some {useGTIDs : Bool} {state next : Streamer} (stepped : readEvent useGTIDs state = some next) :
    ∃ event logPos rest, state.reader.stream = (event, logPos) :: rest ∧
      next = Streamer.handleEvent useGTIDs
        (if useGTIDs then { state with reader := { state.reader with stream := rest } }
          else ({ state with reader := { state.reader with stream := rest } }).updateCurrent (setLogPos logPos)) event := by
  unfold readEvent at stepped
  split at stepped
  · cases stepped
  · next event logPos rest streamed =>
    cases stepped
    exact ⟨event, logPos, rest, streamed, rfl⟩

/-- From a GTID set with the first transaction's GTID, the server streams at most
the second transaction. -/
theorem serverStream_twoTransactions {gtidSet : List Nat} (present : 1 ∈ gtidSet) :
    ∀ entry ∈ serverStream twoTransactions (.gtid gtidSet), entry.1 ∈ (⟨2, [[3]]⟩ : Transaction).events := by
  intro entry member
  by_cases second : 2 ∈ gtidSet
  · simp [serverStream, twoTransactions, present, second] at member
  · simp only [serverStream, twoTransactions, present, second, List.filter_cons, List.filter_nil,
      not_true_eq_false, not_false_eq_true, decide_false, decide_true, List.mem_map] at member
    obtain ⟨event, inTransaction, rfl⟩ := member
    exact inTransaction

/-- Once the first transaction is skipped, it stays skipped, whatever is read and
however often the connection fails. -/
theorem firstTransactionSkipped_step {state next : Streamer} {action : StreamAction}
    (held : FirstTransactionSkipped state) (stepped : streamStep twoTransactions true 0 state action = some next) :
    FirstTransactionSkipped next := by
  obtain ⟨⟨initialSet, initial, initialHas⟩, last, syncer, stream, lost⟩ := held
  cases action with
  | readEvent =>
    simp only [streamStep] at stepped
    split at stepped
    · obtain ⟨event, logPos, rest, streamed, rfl⟩ := readEvent_eq_some stepped
      have later : ∀ entry ∈ rest, entry.1 ∈ (⟨2, [[3]]⟩ : Transaction).events :=
        fun entry member => stream entry (by rw [streamed]; exact List.mem_cons_of_mem _ member)
      have current : event ∈ (⟨2, [[3]]⟩ : Transaction).events := stream (event, logPos) (by simp [streamed])
      simp only [Transaction.events, List.map_cons, List.map_nil, List.cons_append, List.nil_append,
        List.mem_cons, List.not_mem_nil, or_false] at current
      rcases current with rfl | rfl | rfl
      · -- the second transaction's GTID goes into sets that already hold the first's
        show FirstTransactionSkipped (Streamer.onGtid { state with reader := { state.reader with stream := rest } } 2)
        obtain ⟨stream', last', syncer', delivered'⟩ := onGtid_reader
          { state with reader := { state.reader with stream := rest } } 2
        refine ⟨?_, ?_, ?_, ?_, ?_⟩
        · rcases onGtid_initialBinlogCoordinates { state with reader := { state.reader with stream := rest } } 2
            with same | added
          · exact ⟨initialSet, by rw [same]; exact initial, initialHas⟩
          · exact ⟨addToGtidSet 2 initialSet, by rw [added]; simp [initial, addGtid], mem_addToGtidSet_of_mem initialHas⟩
        · rw [last']
          exact last
        · rw [syncer']
          exact mem_addToGtidSet_of_mem syncer
        · rw [stream']
          exact later
        · rw [delivered']
          exact lost
      · exact ⟨⟨initialSet, initial, initialHas⟩, last, syncer, later, by simpa [Streamer.handleEvent] using lost⟩
      · refine ⟨⟨initialSet, initial, initialHas⟩, ?_, syncer, later, lost⟩
        simpa [Streamer.handleEvent, Streamer.onXid] using syncer
    · cases stepped
  | fail =>
    simp only [streamStep, reconnect] at stepped
    split at stepped
    · cases stepped
    · split at stepped
      · next exhausted => simp at exhausted
      · cases stepped
        -- the new reader starts at `LastTrxCoords` or at the initial coordinates: both hold GTID 1
        obtain ⟨gtidSet, resume, has⟩ : ∃ gtidSet,
            state.reader.lastTrxCoords.getD state.initialBinlogCoordinates = .gtid gtidSet ∧ 1 ∈ gtidSet := by
          cases found : state.reader.lastTrxCoords with
          | none => exact ⟨initialSet, by simp [initial], initialHas⟩
          | some coordinates => simpa using last coordinates found
        refine ⟨⟨initialSet, initial, initialHas⟩, by simp [connectReader], ?_, ?_, lost⟩
        · simpa [connectReader, resume] using has
        · simpa [connectReader, resume] using serverStream_twoTransactions has

/-- The first transaction's GTID, its first rows event, a failure, then the second
transaction. -/
def failInFirstTransaction : List StreamAction :=
  [.readEvent, .readEvent, .fail, .readEvent, .readEvent, .readEvent]

/-- With GTIDs: the first reader adds the first transaction's GTID to the streamer's
initial coordinates themselves; the connection fails before that transaction's XID, so
the new reader starts from a set that holds it. Row 2 is never delivered, whatever
follows. -/
theorem reconnect_skips_first_transaction :
    ∃ final, runStreamer twoTransactions true 0 (.gtid []) failInFirstTransaction = some final ∧
      final.delivered = [1, 3] ∧
      ∀ more later, Lib.run (streamStep twoTransactions true 0) final more = some later → 2 ∉ later.delivered := by
  refine ⟨⟨.gtid [1], ⟨[], false, .gtid [1, 2], some (.gtid [1, 2]), [1, 2]⟩, [1, 3], 1, true⟩, rfl, rfl,
    fun more later ran => ?_⟩
  refine (Lib.run_invariant (streamStep twoTransactions true 0) FirstTransactionSkipped
    (fun _ _ _ held stepped => firstTransactionSkipped_step held stepped) ?_ ran).lost
  exact ⟨⟨[1], rfl, by decide⟩, by simp, by decide, by simp, by decide⟩

/-! ## File coordinates lose no row

With file coordinates a reconnect may deliver rows again, but it never loses one.
Every place the streamer can resume from (the reader's current coordinates, the
initial coordinates, `LastTrxCoords`) is a position up to which every row of the
binlog has been delivered. The first reader moves the initial coordinates in place, so
they can run ahead of a later reader; a failure that resumes there skips only rows
the first reader delivered. -/

/-- The binlog's events, in the order of their positions. -/
def binlogEvents (binlog : List Transaction) : List StreamEvent :=
  (binlog.map Transaction.events).flatten

/-- The rows an event brings to the listeners. -/
def StreamEvent.rowsOf : StreamEvent → List Nat
  | .rows values => values
  | _ => []

/-- The rows of the binlog's events from position `start` up to `position`. -/
def rowsBetween (binlog : List Transaction) (start position : Nat) : List Nat :=
  (((binlogEvents binlog).take position).drop start).flatMap StreamEvent.rowsOf

/-- From a file position the server streams the event at that position, which ends
one position further, and then the stream from there. -/
theorem serverStream_file_eq_cons {binlog : List Transaction} {position logPos : Nat} {event : StreamEvent}
    {rest : List (StreamEvent × Nat)} (streamed : serverStream binlog (.file position) = (event, logPos) :: rest) :
    (binlogEvents binlog)[position]? = some event ∧ logPos = position + 1 ∧
      rest = serverStream binlog (.file (position + 1)) := by
  have head := congrArg List.head? streamed
  have tail := congrArg List.tail streamed
  simp only [serverStream, List.head?_drop, List.tail_drop, List.getElem?_map, List.getElem?_zipIdx,
    List.head?_cons, List.tail_cons, Option.map_map] at head tail
  obtain ⟨found, atPosition, entry⟩ := Option.map_eq_some_iff.mp head
  simp only [Function.comp_apply, Nat.zero_add, Prod.mk.injEq] at entry
  obtain ⟨rfl, rfl⟩ := entry
  exact ⟨atPosition, rfl, tail.symm⟩

/-- Reading one more event adds at most that event's rows. -/
theorem rowsBetween_succ_sublist (binlog : List Transaction) (start : Nat) {position : Nat} {event : StreamEvent}
    (found : (binlogEvents binlog)[position]? = some event) :
    (rowsBetween binlog start (position + 1)).Sublist (rowsBetween binlog start position ++ event.rowsOf) := by
  unfold rowsBetween
  rw [List.take_add_one, found, List.drop_append, List.flatMap_append]
  have tail := (List.drop_sublist (start - ((binlogEvents binlog).take position).length) [event]).flatMap
    StreamEvent.rowsOf
  simpa using tail

/-- A stream that has ended stands past every event. -/
theorem rowsBetween_of_serverStream_nil {binlog : List Transaction} {start position : Nat}
    (ended : serverStream binlog (.file position) = []) :
    rowsBetween binlog start position = ((binlogEvents binlog).drop start).flatMap StreamEvent.rowsOf := by
  have past : (binlogEvents binlog).length ≤ position := by
    simpa [serverStream, binlogEvents] using ended
  simp [rowsBetween, List.take_of_length_le past]

/-- File coordinates up to which every row from `start` on has been delivered. -/
def DeliveredUpTo (binlog : List Transaction) (start : Nat) (delivered : List Nat) (coordinates : Coordinates) :
    Prop :=
  ∃ position, coordinates = .file position ∧ (rowsBetween binlog start position).Sublist delivered

theorem DeliveredUpTo.mono {binlog : List Transaction} {start : Nat} {delivered more : List Nat}
    {coordinates : Coordinates} (upTo : DeliveredUpTo binlog start delivered coordinates) (grown : delivered.Sublist more) :
    DeliveredUpTo binlog start more coordinates := by
  obtain ⟨position, rfl, rows⟩ := upTo
  exact ⟨position, rfl, rows.trans grown⟩

/-- With file coordinates the reader streams from its current coordinates, and every
place a reconnect can resume from is one up to which every row has been delivered. -/
structure FileDelivery (binlog : List Transaction) (start : Nat) (state : Streamer) : Prop where
  stream : state.reader.stream = serverStream binlog state.currentCoordinates
  current : DeliveredUpTo binlog start state.delivered state.currentCoordinates
  initial : DeliveredUpTo binlog start state.delivered state.initialBinlogCoordinates
  last : ∀ last ∈ state.reader.lastTrxCoords, DeliveredUpTo binlog start state.delivered last

theorem FileDelivery.start (binlog : List Transaction) (start : Nat) :
    FileDelivery binlog start (Streamer.start binlog (.file start)) := by
  have upTo : DeliveredUpTo binlog start [] (.file start) := ⟨start, rfl, by simp [rowsBetween]⟩
  exact ⟨rfl, upTo, upTo, fun _ none => nomatch none⟩

/-- A read with file coordinates: the stream's next event moves the current
coordinates to its end, its rows are delivered, and the initial coordinates and
`LastTrxCoords` stay or take the new current ones. -/
theorem readEvent_file {state next : Streamer} (stepped : readEvent false state = some next) :
    ∃ event logPos, state.reader.stream = (event, logPos) :: next.reader.stream ∧
      next.currentCoordinates = setLogPos logPos state.currentCoordinates ∧
      next.delivered = state.delivered ++ event.rowsOf ∧
      (next.initialBinlogCoordinates = state.initialBinlogCoordinates ∨
        next.initialBinlogCoordinates = next.currentCoordinates) ∧
      (next.reader.lastTrxCoords = state.reader.lastTrxCoords ∨
        next.reader.lastTrxCoords = some next.currentCoordinates) := by
  obtain ⟨event, logPos, rest, streamed, rfl⟩ := readEvent_eq_some stepped
  refine ⟨event, logPos, ?_⟩
  by_cases aliased : state.reader.currentIsInitial <;> cases event <;>
    simp [streamed, aliased, Streamer.handleEvent, Streamer.onXid, Streamer.updateCurrent,
      Streamer.currentCoordinates, StreamEvent.rowsOf]

/-- A failure gives up, keeping the reader, or connects a new one at `LastTrxCoords`
or at the initial coordinates; the rows delivered stay. -/
theorem reconnect_eq_some {binlog : List Transaction} {maxReconnectAttempts : Nat} {state next : Streamer}
    (stepped : reconnect binlog maxReconnectAttempts state = some next) :
    next.initialBinlogCoordinates = state.initialBinlogCoordinates ∧ next.delivered = state.delivered ∧
      (next.reader = state.reader ∨
        next.reader = connectReader binlog (state.reader.lastTrxCoords.getD state.initialBinlogCoordinates) false) := by
  unfold reconnect at stepped
  split at stepped
  · cases stepped
  · split at stepped <;> cases stepped <;> simp

section FileDelivery

variable {binlog : List Transaction} {start : Nat} {state next : Streamer}

theorem FileDelivery.readEvent (held : FileDelivery binlog start state)
    (stepped : readEvent false state = some next) : FileDelivery binlog start next := by
  obtain ⟨event, logPos, streamed, current, delivered, initial, last⟩ := readEvent_file stepped
  obtain ⟨position, atPosition, rows⟩ := held.current
  rw [held.stream, atPosition] at streamed
  obtain ⟨found, rfl, rest⟩ := serverStream_file_eq_cons streamed
  have grown : state.delivered.Sublist next.delivered := delivered ▸ List.sublist_append_left _ _
  -- the event just read is one more position up to which every row is delivered
  have upTo : DeliveredUpTo binlog start next.delivered next.currentCoordinates := by
    refine ⟨position + 1, by rw [current, atPosition]; rfl, ?_⟩
    rw [delivered]
    exact (rowsBetween_succ_sublist binlog start found).trans (rows.append (List.Sublist.refl _))
  refine ⟨?_, upTo, ?_, ?_⟩
  · rw [current, atPosition, rest]
    rfl
  · rcases initial with same | moved
    · exact same ▸ held.initial.mono grown
    · exact moved ▸ upTo
  · rcases last with same | moved
    · intro coordinates member
      exact (held.last coordinates (same ▸ member)).mono grown
    · intro coordinates member
      rw [moved, Option.mem_some_iff] at member
      exact member ▸ upTo

theorem FileDelivery.reconnect {maxReconnectAttempts : Nat} (held : FileDelivery binlog start state)
    (stepped : reconnect binlog maxReconnectAttempts state = some next) : FileDelivery binlog start next := by
  obtain ⟨initial, delivered, same | connected⟩ := reconnect_eq_some stepped
  · have current : next.currentCoordinates = state.currentCoordinates := by
      simp only [Streamer.currentCoordinates, same, initial]
    exact ⟨by rw [same, current]; exact held.stream, by rw [current, delivered]; exact held.current,
      by rw [initial, delivered]; exact held.initial, by rw [same, delivered]; exact held.last⟩
  · -- the new reader stands at the coordinates it resumed from, with no `LastTrxCoords`
    have current : next.currentCoordinates = state.reader.lastTrxCoords.getD state.initialBinlogCoordinates := by
      simp [Streamer.currentCoordinates, connected, connectReader]
    have resumed : DeliveredUpTo binlog start state.delivered
        (state.reader.lastTrxCoords.getD state.initialBinlogCoordinates) := by
      cases found : state.reader.lastTrxCoords with
      | none => exact held.initial
      | some last => exact held.last last found
    refine ⟨by rw [current, connected]; rfl, by rw [current, delivered]; exact resumed,
      by rw [initial, delivered]; exact held.initial, ?_⟩
    intro last member
    simp [connected, connectReader] at member

theorem FileDelivery.step {maxReconnectAttempts : Nat} {action : StreamAction} (held : FileDelivery binlog start state)
    (stepped : streamStep binlog false maxReconnectAttempts state action = some next) :
    FileDelivery binlog start next := by
  cases action with
  | readEvent =>
    simp only [streamStep] at stepped
    split at stepped
    · exact held.readEvent stepped
    · cases stepped
  | fail => exact held.reconnect stepped

end FileDelivery

example : (runStreamer twoTransactions false 0 (.file 0) failInFirstTransaction).map Streamer.delivered =
    some [1, 2] := rfl

end GhOst.Logic
