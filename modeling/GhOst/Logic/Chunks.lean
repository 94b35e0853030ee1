import GhOst.Lib.Blocks
import Mathlib.Data.List.Nodup
import Mathlib.Data.Nat.Basic

/-! Row copy: `ReadMigrationRangeValues`, `CalculateNextIterationRangeEndValues`, the
range `ApplyIterationInsertQuery` copies, and the `iterateChunks` loop as
`executeWriteFuncs` runs its copy functions, one after the other. The table is its
unique-key values, ascending, so that the queries' `where`, `order by`, `limit` and
`offset` become a filter and positions in that list. The key tuples are abstracted to
one linearly ordered type: the range predicates compare them lexicographically, a
linear order on values without NULLs. -/

namespace GhOst.Logic

/-- A copied range: its start, whether the start is included, and its end. -/
structure Chunk (κ : Type) where
  rangeStart : κ
  includeRangeStartValues : Bool
  rangeEnd : κ
  deriving DecidableEq, Repr

/-- The fields of the migration context and of the applier that row copy reads and
writes; the range of the table is known, so this context exists only for a table
with rows. -/
structure IterationContext (κ : Type) where
  migrationRangeMinValues : κ
  migrationRangeMaxValues : κ
  migrationIterationRangeMinValues : Option κ
  migrationIterationRangeMaxValues : Option κ
  lastIterationRangeMinValues : Option κ
  lastIterationRangeMaxValues : Option κ
  iteration : Nat
  chunkSize : Nat
  deriving DecidableEq, Repr

section Ranges

variable {κ : Type}

/-! ## The ranges of consecutive blocks -/

/-- The ranges that copy a list of blocks in turn: each ends at its block's last key
and the next starts right after that key. -/
def rangesOf (rangeStart : κ) (includeRangeStartValues : Bool) : List (List κ) → List (Chunk κ)
  | [] => []
  | block :: later =>
    ⟨rangeStart, includeRangeStartValues, block.getLastD rangeStart⟩ ::
      rangesOf (block.getLastD rangeStart) false later

@[simp] theorem length_rangesOf (rangeStart : κ) (includeRangeStartValues : Bool) (blocks : List (List κ)) :
    (rangesOf rangeStart includeRangeStartValues blocks).length = blocks.length := by
  induction blocks generalizing rangeStart includeRangeStartValues with
  | nil => rfl
  | cons block later ih => simp [rangesOf, ih]

/-- Every range after the first starts, exclusively, where the one before it ended. -/
theorem isChain_rangesOf (rangeStart : κ) (includeRangeStartValues : Bool) (blocks : List (List κ)) :
    (rangesOf rangeStart includeRangeStartValues blocks).IsChain
      fun previous next => next.rangeStart = previous.rangeEnd ∧ next.includeRangeStartValues = false := by
  induction blocks generalizing rangeStart includeRangeStartValues with
  | nil => exact List.IsChain.nil
  | cons block later ih =>
    cases later with
    | nil => exact List.IsChain.singleton _
    | cons next rest =>
      simp only [rangesOf] at ih ⊢
      exact List.IsChain.cons_cons ⟨rfl, rfl⟩ (ih _ _)

end Ranges

section Chunking

variable {κ : Type} [LinearOrder κ]

/-- The start comparison of the range queries: `>=` while `includeRangeStartValues`
(the first iteration), `>` after it. -/
def rangeStartComparison (rangeStart : κ) (includeRangeStartValues : Bool) (key : κ) : Bool :=
  if includeRangeStartValues then decide (rangeStart ≤ key) else decide (rangeStart < key)

/-- The `where` clause of the range queries: the start comparison and `<=` the end. -/
def inIterationRange (rangeStart : κ) (includeRangeStartValues : Bool) (rangeEnd key : κ) : Bool :=
  rangeStartComparison rangeStart includeRangeStartValues key && decide (key ≤ rangeEnd)

/-- `BuildUniqueKeyRangeEndPreparedQueryViaOffset` answered by the table: the keys of
the range in ascending order, `limit 1 offset chunkSize - 1`. -/
def rangeEndViaOffset (keys : List κ) (rangeStart : κ) (includeRangeStartValues : Bool)
    (rangeEnd : κ) (chunkSize : Nat) : Option κ :=
  ((keys.filter (inIterationRange rangeStart includeRangeStartValues rangeEnd)).drop (chunkSize - 1)).head?

/-- `BuildUniqueKeyRangeEndPreparedQueryViaTemptable` answered by the table: the
first `chunkSize` keys of the range, then the largest of them. -/
def rangeEndViaTemptable (keys : List κ) (rangeStart : κ) (includeRangeStartValues : Bool)
    (rangeEnd : κ) (chunkSize : Nat) : Option κ :=
  ((keys.filter (inIterationRange rangeStart includeRangeStartValues rangeEnd)).take chunkSize).getLast?

/-- `ReadMigrationRangeValues`: the smallest and the largest key, nil for an empty table. -/
def readMigrationRangeValues (keys : List κ) : Option κ × Option κ :=
  (keys.head?, keys.getLast?)

/-- The rows a chunk copies: `insert ignore ... select` over the keys of its range. -/
def Chunk.rows (keys : List κ) (chunk : Chunk κ) : List κ :=
  keys.filter (inIterationRange chunk.rangeStart chunk.includeRangeStartValues chunk.rangeEnd)

/-- The start of the next range: the end of the last one, or the table's minimum
before the first. -/
def IterationContext.nextRangeStart (context : IterationContext κ) : κ :=
  context.migrationIterationRangeMaxValues.getD context.migrationRangeMinValues

/-- The iteration range as `ApplyIterationInsertQuery` reads it; none while either
bound is nil, where the Go code would dereference a nil pointer (never after a
calculation that found a range). -/
def IterationContext.iterationRange (context : IterationContext κ) : Option (Chunk κ) :=
  match context.migrationIterationRangeMinValues, context.migrationIterationRangeMaxValues with
  | some rangeStart, some rangeEnd => some ⟨rangeStart, context.iteration == 0, rangeEnd⟩
  | _, _ => none

/-- Keep the iteration range about to be left, when there is one, for checkpoints. -/
def IterationContext.saveLastIterationRange (context : IterationContext κ) : IterationContext κ :=
  match context.migrationIterationRangeMinValues, context.migrationIterationRangeMaxValues with
  | some rangeMin, some rangeMax =>
    { context with lastIterationRangeMinValues := some rangeMin, lastIterationRangeMaxValues := some rangeMax }
  | _, _ => context

/-- `CalculateNextIterationRangeEndValues`: keep the range about to be left, start the
next range at the end of the last one, and ask for its end by offset, then through a
temporary table; no row from either means no further range. -/
def calculateNextIterationRangeEndValues (keys : List κ) (context : IterationContext κ) :
    Bool × IterationContext κ :=
  let context := context.saveLastIterationRange
  let rangeStart := context.nextRangeStart
  let context := { context with migrationIterationRangeMinValues := some rangeStart }
  let includeRangeStartValues := context.iteration == 0
  match rangeEndViaOffset keys rangeStart includeRangeStartValues context.migrationRangeMaxValues
      context.chunkSize with
  | some rangeEnd => (true, { context with migrationIterationRangeMaxValues := some rangeEnd })
  | none =>
    match rangeEndViaTemptable keys rangeStart includeRangeStartValues context.migrationRangeMaxValues
        context.chunkSize with
    | some rangeEnd => (true, { context with migrationIterationRangeMaxValues := some rangeEnd })
    | none => (false, context)

/-- `iterateChunks`, its copy functions run in order: calculate the next range end;
when there is one, copy the range and count the iteration. At most `fuel`
calculations; returns the ranges copied and whether the loop ended because no
further range was found. -/
def iterateChunks (keys : List κ) : Nat → IterationContext κ → List (Chunk κ) × Bool
  | 0, _ => ([], false)
  | fuel + 1, context =>
    match calculateNextIterationRangeEndValues keys context with
    | (false, _) => ([], true)
    | (true, context) =>
      match context.iterationRange with
      | none => ([], false)
      | some chunk =>
        let (chunks, finished) := iterateChunks keys fuel { context with iteration := context.iteration + 1 }
        (chunk :: chunks, finished)

/-- The context when row copy starts: the range read, no iteration range yet. -/
def startContext (rangeMin rangeMax : κ) (chunkSize : Nat) : IterationContext κ where
  migrationRangeMinValues := rangeMin
  migrationRangeMaxValues := rangeMax
  migrationIterationRangeMinValues := none
  migrationIterationRangeMaxValues := none
  lastIterationRangeMinValues := none
  lastIterationRangeMaxValues := none
  iteration := 0
  chunkSize := chunkSize

/-- Row copy: read the range, then iterate the chunks; with no rows in the table
(`MigrationRangeMinValues` nil) it is done at once. -/
def rowCopy (keys : List κ) (chunkSize fuel : Nat) : List (Chunk κ) × Bool :=
  match readMigrationRangeValues keys with
  | (some rangeMin, some rangeMax) => iterateChunks keys fuel (startContext rangeMin rangeMax chunkSize)
  | _ => ([], true)

/-! ## One calculation -/

omit [LinearOrder κ] in
/-- Saving the last range touches only the saved fields. -/
theorem saveLastIterationRange_eq (context : IterationContext κ) :
    ∃ lastMin lastMax, context.saveLastIterationRange =
      { context with lastIterationRangeMinValues := lastMin, lastIterationRangeMaxValues := lastMax } := by
  unfold IterationContext.saveLastIterationRange
  split
  · exact ⟨_, _, rfl⟩
  · exact ⟨_, _, rfl⟩

/-- A calculation starts the range at `nextRangeStart` and ends it at the key the
offset query finds, or else the temptable query. -/
theorem calculateNextIterationRangeEndValues_eq (keys : List κ) (context : IterationContext κ) :
    ∃ lastMin lastMax,
      let started := { context with
        lastIterationRangeMinValues := lastMin, lastIterationRangeMaxValues := lastMax,
        migrationIterationRangeMinValues := some context.nextRangeStart }
      calculateNextIterationRangeEndValues keys context =
        match (rangeEndViaOffset keys context.nextRangeStart (context.iteration == 0)
            context.migrationRangeMaxValues context.chunkSize).or
          (rangeEndViaTemptable keys context.nextRangeStart (context.iteration == 0)
            context.migrationRangeMaxValues context.chunkSize) with
        | some rangeEnd => (true, { started with migrationIterationRangeMaxValues := some rangeEnd })
        | none => (false, started) := by
  obtain ⟨lastMin, lastMax, saved⟩ := saveLastIterationRange_eq context
  refine ⟨lastMin, lastMax, ?_⟩
  simp only [calculateNextIterationRangeEndValues, saved, IterationContext.nextRangeStart]
  cases rangeEndViaOffset keys _ _ _ _ <;> rfl

/-- The range a calculation keeps for checkpoints is the one kept before it, or the
iteration range it leaves. -/
theorem lastIterationRangeMaxValues_calculate (keys : List κ) (context : IterationContext κ) {lastMax : κ}
    (saved : (calculateNextIterationRangeEndValues keys context).2.lastIterationRangeMaxValues = some lastMax) :
    context.lastIterationRangeMaxValues = some lastMax ∨ context.migrationIterationRangeMaxValues = some lastMax := by
  have kept : (calculateNextIterationRangeEndValues keys context).2.lastIterationRangeMaxValues =
      context.saveLastIterationRange.lastIterationRangeMaxValues := by
    simp only [calculateNextIterationRangeEndValues]
    split
    · rfl
    · split <;> rfl
  rw [kept] at saved
  unfold IterationContext.saveLastIterationRange at saved
  split at saved
  · next _ _ _ rangeEnd _ ended =>
    exact .inr (ended.trans saved)
  · exact .inl saved

/-- The queries find no range end only when no key lies in the range. -/
theorem filter_eq_nil_of_rangeEnd_none {keys : List κ} {rangeStart rangeEnd : κ} {includeRangeStartValues : Bool}
    {chunkSize : Nat}
    (missing : (rangeEndViaOffset keys rangeStart includeRangeStartValues rangeEnd chunkSize).or
      (rangeEndViaTemptable keys rangeStart includeRangeStartValues rangeEnd chunkSize) = none) :
    keys.filter (inIterationRange rangeStart includeRangeStartValues rangeEnd) = [] := by
  simp only [Option.or_eq_none_iff, rangeEndViaOffset, rangeEndViaTemptable] at missing
  obtain ⟨offset, temptable⟩ := missing
  -- a chunk size of zero leaves the offset query, any other the temptable query, to see every key
  cases chunkSize with
  | zero => simpa using offset
  | succ size => simpa using temptable

/-- A range end the queries find is a key of the range. -/
theorem mem_filter_of_rangeEnd_some {keys : List κ} {rangeStart rangeEnd found : κ}
    {includeRangeStartValues : Bool} {chunkSize : Nat}
    (answered : (rangeEndViaOffset keys rangeStart includeRangeStartValues rangeEnd chunkSize).or
      (rangeEndViaTemptable keys rangeStart includeRangeStartValues rangeEnd chunkSize) = some found) :
    found ∈ keys.filter (inIterationRange rangeStart includeRangeStartValues rangeEnd) := by
  rcases Option.or_eq_some_iff.mp answered with offset | ⟨-, temptable⟩
  · exact List.mem_of_mem_drop (List.mem_of_mem_head? offset)
  · exact List.mem_of_mem_take (List.mem_of_getLast? temptable)

/-! ## Where the start comparison splits the keys -/

/-- The start comparison rejects the keys already copied and accepts those still to copy. -/
structure Splits (rangeStart : κ) (includeRangeStartValues : Bool) (done rest : List κ) : Prop where
  rejects : ∀ key ∈ done, rangeStartComparison rangeStart includeRangeStartValues key = false
  accepts : ∀ key ∈ rest, rangeStartComparison rangeStart includeRangeStartValues key = true

/-- Below the table's maximum, the range from a split point is all that is left. -/
theorem filter_inIterationRange_eq_rest {done rest : List κ} {rangeStart rangeMax : κ}
    {includeRangeStartValues : Bool} (splits : Splits rangeStart includeRangeStartValues done rest)
    (bounded : ∀ key ∈ done ++ rest, key ≤ rangeMax) :
    (done ++ rest).filter (inIterationRange rangeStart includeRangeStartValues rangeMax) = rest := by
  rw [← List.append_nil (done ++ rest)]
  refine Lib.filter_eq_middle (fun key member => ?_) (fun key member => ?_) (by simp)
  · simp [inIterationRange, splits.rejects key member]
  · simp [inIterationRange, splits.accepts key member, bounded key (List.mem_append_right done member)]

/-- The range up to the last key of the next block copies that block, and the block's
end splits the keys after it. -/
theorem filter_inIterationRange_block {done block later : List κ} {rangeStart : κ}
    {includeRangeStartValues : Bool} (increasing : (done ++ block ++ later).Pairwise (· < ·))
    (splits : Splits rangeStart includeRangeStartValues done (block ++ later)) (nonempty : block ≠ []) :
    (done ++ block ++ later).filter (inIterationRange rangeStart includeRangeStartValues (block.getLast nonempty)) =
        block ∧
      Splits (block.getLast nonempty) false (done ++ block) later := by
  have upTo : ∀ key ∈ done ++ block, key ≤ block.getLast nonempty := by
    intro key member
    have below := Lib.le_getLast_of_mem (List.pairwise_append.mp increasing).1 member
    rwa [List.getLast_append_of_ne_nil _ nonempty] at below
  have beyond : ∀ key ∈ later, block.getLast nonempty < key := by
    intro key member
    have above := Lib.getLast_lt_of_mem_right increasing (by simp [nonempty]) member
    rwa [List.getLast_append_of_ne_nil _ nonempty] at above
  refine ⟨?_, ⟨fun key member => ?_, fun key member => ?_⟩⟩
  · refine Lib.filter_eq_middle (fun key member => ?_) (fun key member => ?_) (fun key member => ?_)
    · simp [inIterationRange, splits.rejects key member]
    · simp [inIterationRange, splits.accepts key (List.mem_append_left later member),
        upTo key (List.mem_append_right done member)]
    · simp [inIterationRange, not_le.mpr (beyond key member)]
  · simp [rangeStartComparison, upTo key member]
  · simp [rangeStartComparison, beyond key member]

/-- The ranges of the blocks of what is left copy exactly those blocks. -/
theorem rows_rangesOf {keys : List κ} (increasing : keys.Pairwise (· < ·)) {size : Nat} {rest : List κ} : ∀ {done : List κ} {rangeStart : κ} {includeRangeStartValues : Bool},
      keys = done ++ rest → Splits rangeStart includeRangeStartValues done rest →
      (rangesOf rangeStart includeRangeStartValues (Lib.blocks size rest)).map (Chunk.rows keys) =
        Lib.blocks size rest := by
  induction rest using Lib.blocks.induct size with
  | case1 => intros; simp [rangesOf]
  | case2 a rest ih =>
    intro done rangeStart includeRangeStartValues split splits
    -- the first block, and the keys after it
    have whole : a :: rest = (a :: rest.take (size - 1)) ++ rest.drop (size - 1) := by
      rw [List.cons_append, List.take_append_drop]
    have nonempty : a :: rest.take (size - 1) ≠ [] := List.cons_ne_nil _ _
    rw [whole, ← List.append_assoc] at split
    rw [whole] at splits
    obtain ⟨copied, next⟩ := filter_inIterationRange_block (split ▸ increasing) splits nonempty
    rw [Lib.blocks_cons, rangesOf, List.map_cons, Lib.getLastD_of_ne_nil nonempty, ih split next]
    simp only [Chunk.rows, split, copied]

/-! ## The copy loop -/

/-- The context once the chunks that copied `done` are through, with `rest` still to copy. -/
structure Position (keys : List κ) (context : IterationContext κ) (done rest : List κ) : Prop where
  split : keys = done ++ rest
  rangeMin : keys.head? = some context.migrationRangeMinValues
  rangeMax : keys.getLast? = some context.migrationRangeMaxValues
  rangeEnd : context.migrationIterationRangeMaxValues = done.getLast?
  firstIteration : context.iteration = 0 ↔ done = []

omit [LinearOrder κ] in
theorem position_startContext {keys : List κ} {rangeMin rangeMax : κ}
    (range : readMigrationRangeValues keys = (some rangeMin, some rangeMax)) (chunkSize : Nat) :
    Position keys (startContext rangeMin rangeMax chunkSize) [] keys := by
  simp only [readMigrationRangeValues, Prod.mk.injEq] at range
  exact ⟨rfl, range.1, range.2, rfl, by simp [startContext]⟩

/-- The next range's start comparison splits the keys where the copy stands. -/
theorem Position.splits {keys : List κ} (increasing : keys.Pairwise (· < ·)) {context : IterationContext κ}
    {done rest : List κ} (position : Position keys context done rest) :
    Splits context.nextRangeStart (context.iteration == 0) done rest := by
  by_cases first : done = []
  · -- nothing copied yet: the range starts at the table's minimum, inclusively
    subst first
    have start : context.nextRangeStart = context.migrationRangeMinValues := by
      simp [IterationContext.nextRangeStart, position.rangeEnd]
    have first : (context.iteration == 0) = true := by simp [position.firstIteration]
    refine ⟨by simp, fun key member => ?_⟩
    have inKeys : key ∈ keys := by rw [position.split]; exact List.mem_append_right [] member
    have least := Lib.head_le_of_mem increasing inKeys
    rw [(List.head_eq_iff_head?_eq_some _).mpr position.rangeMin] at least
    simp [rangeStartComparison, start, first, least]
  · have later : (context.iteration == 0) = false := by simp [position.firstIteration, first]
    have start : context.nextRangeStart = done.getLast first := by
      simp [IterationContext.nextRangeStart, position.rangeEnd, List.getLast?_eq_some_getLast first]
    have increasing' : (done ++ rest).Pairwise (· < ·) := position.split ▸ increasing
    refine ⟨fun key member => ?_, fun key member => ?_⟩
    · have below := Lib.le_getLast_of_mem (List.pairwise_append.mp increasing').1 member
      simp [rangeStartComparison, later, start, not_lt.mpr below]
    · simp [rangeStartComparison, later, start, Lib.getLast_lt_of_mem_right increasing' first member]

omit [LinearOrder κ] in
/-- One chunk on: the next range ends at the last key of the next block, and the
iteration is counted. -/
theorem Position.advance {keys : List κ} {context : IterationContext κ} {done rest : List κ}
    (position : Position keys context done rest) {size : Nat} (block : rest.take size ≠ [])
    (lastMin lastMax : Option κ) :
    Position keys { context with
      lastIterationRangeMinValues := lastMin, lastIterationRangeMaxValues := lastMax,
      migrationIterationRangeMinValues := some context.nextRangeStart,
      migrationIterationRangeMaxValues := some ((rest.take size).getLast block),
      iteration := context.iteration + 1 } (done ++ rest.take size) (rest.drop size) where
  split := by rw [List.append_assoc, List.take_append_drop]; exact position.split
  rangeMin := position.rangeMin
  rangeMax := position.rangeMax
  rangeEnd := by rw [List.getLast?_append, List.getLast?_eq_some_getLast block]; rfl
  firstIteration := by simp [block]

/-- Where the copy stands, the next range ends at the last key of the next block of
`chunkSize` keys; with no keys left there is no further range. -/
theorem calculate_of_position {keys : List κ} (increasing : keys.Pairwise (· < ·))
    {context : IterationContext κ} {done rest : List κ} (position : Position keys context done rest)
    (positive : 0 < context.chunkSize) :
    ∃ lastMin lastMax,
      let started := { context with
        lastIterationRangeMinValues := lastMin, lastIterationRangeMaxValues := lastMax,
        migrationIterationRangeMinValues := some context.nextRangeStart }
      calculateNextIterationRangeEndValues keys context =
        match (rest.take context.chunkSize).getLast? with
        | some rangeEnd => (true, { started with migrationIterationRangeMaxValues := some rangeEnd })
        | none => (false, started) := by
  obtain ⟨lastMin, lastMax, calculated⟩ := calculateNextIterationRangeEndValues_eq keys context
  refine ⟨lastMin, lastMax, ?_⟩
  -- what is left of the table lies in the range from the next start to the maximum
  have left : keys.filter (inIterationRange context.nextRangeStart (context.iteration == 0)
      context.migrationRangeMaxValues) = rest := by
    have bounded : ∀ key ∈ done ++ rest, key ≤ context.migrationRangeMaxValues := by
      intro key member
      rw [← position.split] at member
      have most := Lib.le_getLast_of_mem increasing member
      rwa [(List.getLast_eq_iff_getLast?_eq_some _).mpr position.rangeMax] at most
    rw [position.split]
    exact filter_inIterationRange_eq_rest (position.splits increasing) bounded
  simp only [calculated, rangeEndViaOffset, rangeEndViaTemptable, left,
    Lib.head?_drop_or_getLast?_take positive]

/-- From where the copy stands, the loop copies the ranges of the blocks of what is
left and ends because it finds no further range, given a calculation to spare. -/
theorem iterateChunks_of_position {keys : List κ} (increasing : keys.Pairwise (· < ·)) :
    ∀ (fuel : Nat) {context : IterationContext κ} {done rest : List κ},
      Position keys context done rest → 0 < context.chunkSize → rest.length < fuel →
      iterateChunks keys fuel context =
        (rangesOf context.nextRangeStart (context.iteration == 0) (Lib.blocks context.chunkSize rest), true)
  | 0, _, _, _, _, _, short => absurd short (Nat.not_lt_zero _)
  | fuel + 1, context, done, rest, position, positive, short => by
    obtain ⟨lastMin, lastMax, calculated⟩ := calculate_of_position increasing position positive
    by_cases finished : rest = []
    · subst finished
      simp only [iterateChunks, calculated, List.take_nil, List.getLast?_nil, Lib.blocks_nil, rangesOf]
    · have block : rest.take context.chunkSize ≠ [] := by simp [finished]; omega
      rw [List.getLast?_eq_some_getLast block] at calculated
      have next := iterateChunks_of_position increasing fuel (position.advance block lastMin lastMax) positive
        (by have := List.length_pos_of_ne_nil finished; simp only [List.length_drop]; omega)
      simp only [iterateChunks, calculated, IterationContext.iterationRange] at next ⊢
      rw [next, Lib.blocks_of_ne_nil positive finished, rangesOf, Lib.getLastD_of_ne_nil block]
      simp [IterationContext.nextRangeStart]

/-! ## Row copy partitions the keys -/

/-- Row copy over a table whose keys are strictly increasing, with a positive chunk
size and a calculation more than there are keys, ends because it finds no further
range after exactly `⌈|keys| / chunkSize⌉` chunks. The chunks' rows are nonempty,
hold at most `chunkSize` keys each, are pairwise disjoint and together are the keys
in order; the first range starts, inclusively, at the smallest key, and every later
one starts, exclusively, where the one before it ended. -/
theorem rowCopy_partitions_keys (keys : List κ) (increasing : keys.Pairwise (· < ·)) (chunkSize : Nat)
    (positive : 0 < chunkSize) (fuel : Nat) (enough : keys.length < fuel) :
    ∃ chunks, rowCopy keys chunkSize fuel = (chunks, true) ∧
      chunks.length = (keys.length + chunkSize - 1) / chunkSize ∧
      (chunks.map (Chunk.rows keys)).flatten = keys ∧
      (chunks.map (Chunk.rows keys)).Pairwise List.Disjoint ∧
      (∀ chunk ∈ chunks, chunk.rows keys ≠ [] ∧ (chunk.rows keys).length ≤ chunkSize) ∧
      (∀ first ∈ chunks.head?, keys.head? = some first.rangeStart ∧ first.includeRangeStartValues = true) ∧
      chunks.IsChain fun previous next =>
        next.rangeStart = previous.rangeEnd ∧ next.includeRangeStartValues = false := by
  cases keys with
  | nil =>
    -- an empty table: `MigrationRangeMinValues` is nil and nothing is copied
    refine ⟨[], rfl, ?_, by simp, by simp, by simp, by simp, List.IsChain.nil⟩
    rw [List.length_nil, List.length_nil, Nat.zero_add, Nat.div_eq_of_lt (by omega)]
  | cons least more =>
    have range : readMigrationRangeValues (least :: more) =
        (some least, some ((least :: more).getLast (List.cons_ne_nil _ _))) := by
      simp [readMigrationRangeValues, List.getLast?_eq_some_getLast]
    have position := position_startContext range chunkSize
    have run := iterateChunks_of_position increasing fuel position positive enough
    have splits : Splits least true [] (least :: more) := position.splits increasing
    have copied : (rangesOf least true (Lib.blocks chunkSize (least :: more))).map (Chunk.rows (least :: more)) =
        Lib.blocks chunkSize (least :: more) :=
      rows_rangesOf increasing position.split splits
    refine ⟨rangesOf least true (Lib.blocks chunkSize (least :: more)), ?_, ?_, ?_, ?_, ?_, ?_,
      isChain_rangesOf _ _ _⟩
    · simp only [rowCopy, range]
      exact run
    · rw [length_rangesOf, Lib.length_blocks positive]
    · rw [copied, Lib.flatten_blocks]
    · have distinct : (Lib.blocks chunkSize (least :: more)).flatten.Nodup := by
        rw [Lib.flatten_blocks]
        exact increasing.nodup
      rw [copied]
      exact (List.nodup_flatten.mp distinct).2
    · intro chunk member
      have inBlocks : chunk.rows (least :: more) ∈ Lib.blocks chunkSize (least :: more) := by
        rw [← copied]
        exact List.mem_map.mpr ⟨chunk, member, rfl⟩
      exact ⟨Lib.ne_nil_of_mem_blocks _ inBlocks, Lib.length_le_of_mem_blocks positive _ inBlocks⟩
    · simp [Lib.blocks_cons, rangesOf]

example : rowCopy [1, 2, 3, 4, 5] 2 6 = ([⟨1, true, 2⟩, ⟨2, false, 4⟩, ⟨4, false, 5⟩], true) := by
  decide

/-- Five keys in chunks of two. -/
theorem rowCopy_partitions_five_keys :
    ∃ chunks, rowCopy [1, 2, 3, 4, 5] 2 6 = (chunks, true) ∧
      chunks.length = ([1, 2, 3, 4, 5].length + 2 - 1) / 2 ∧
      (chunks.map (Chunk.rows [1, 2, 3, 4, 5])).flatten = [1, 2, 3, 4, 5] ∧
      (chunks.map (Chunk.rows [1, 2, 3, 4, 5])).Pairwise List.Disjoint ∧
      (∀ chunk ∈ chunks, chunk.rows [1, 2, 3, 4, 5] ≠ [] ∧ (chunk.rows [1, 2, 3, 4, 5]).length ≤ 2) ∧
      (∀ first ∈ chunks.head?, [1, 2, 3, 4, 5].head? = some first.rangeStart ∧
        first.includeRangeStartValues = true) ∧
      chunks.IsChain fun previous next =>
        next.rangeStart = previous.rangeEnd ∧ next.includeRangeStartValues = false :=
  rowCopy_partitions_keys ([1, 2, 3, 4, 5] : List Nat) (by decide) 2 (by decide) 6 (by decide)

end Chunking

end GhOst.Logic
