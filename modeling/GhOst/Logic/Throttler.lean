import GhOst.Lib.Lists

/-! The throttler's reading of the control replicas' lag (`throttler.go`). Each
replica's lag is read by a goroutine of its own, and the results arrive on the
`lagResults` channel in the order the goroutines finish. The loop keeps the first
result, then replaces it by every result with an error and by every result with a
larger lag. An error therefore survives only when no later result has a larger lag:
whether `shouldThrottle` throttles for a replica it cannot read depends on the order
of arrival. -/

namespace GhOst.Logic

/-- `mysql.ReplicationLagResult`: the replica, its lag (a `time.Duration` in
nanoseconds) and the error reading it. -/
structure ReplicationLagResult (κ ε : Type) where
  key : κ
  lag : Int
  err : Option ε
  deriving DecidableEq, Repr

section Fold

variable {κ ε : Type}

/-- One turn of the loop of `readControlReplicasLag` over `lagResults`. -/
def lagStep (result : Option (ReplicationLagResult κ ε)) (lagResult : ReplicationLagResult κ ε) :
    Option (ReplicationLagResult κ ε) :=
  match result with
  | none => some lagResult
  | some current =>
    if lagResult.err.isSome then some lagResult
    else if lagResult.lag > current.lag then some lagResult
    else some current

/-- `readControlReplicasLag` on the results in the order they arrive; with no control
replica it returns `nil`. A replica whose TLS configuration fails to register ends the
read before any goroutine starts; that path is not modelled. -/
def readControlReplicasLag (arrivals : List (ReplicationLagResult κ ε)) : Option (ReplicationLagResult κ ε) :=
  arrivals.foldl lagStep none

/-- `SetControlReplicasLagResult`: no result is stored as `NewNoReplicationLagResult`,
no lag and no error. -/
def storedLagResult [Inhabited κ] : Option (ReplicationLagResult κ ε) → ReplicationLagResult κ ε
  | some lagResult => lagResult
  | none => { key := default, lag := 0, err := none }

/-- The control-replica check of `shouldThrottle`: an error, or a lag over the
threshold (in milliseconds), throttles. -/
def throttlesOnControlReplicas (lagResult : ReplicationLagResult κ ε)
    (maxLagMillisecondsThrottleThreshold : Int) : Bool :=
  lagResult.err.isSome || decide (lagResult.lag > maxLagMillisecondsThrottleThreshold * 1000000)

/-- A result with an error replaces whatever came before it. -/
theorem lagStep_of_err (result : Option (ReplicationLagResult κ ε)) {lagResult : ReplicationLagResult κ ε}
    (failed : lagResult.err.isSome) : lagStep result lagResult = some lagResult := by
  cases result <;> simp [lagStep, failed]

theorem lagStep_of_success (current lagResult : ReplicationLagResult κ ε) (succeeded : lagResult.err = none) :
    lagStep (some current) lagResult = if lagResult.lag > current.lag then some lagResult else some current := by
  simp [lagStep, succeeded]

theorem readControlReplicasLag_append_cons (before after : List (ReplicationLagResult κ ε))
    {lagResult : ReplicationLagResult κ ε} (failed : lagResult.err.isSome) :
    readControlReplicasLag (before ++ lagResult :: after) = after.foldl lagStep (some lagResult) := by
  simp [readControlReplicasLag, lagStep_of_err _ failed]

/-- Over results without error, the loop ends at the result it started from or at one
of them, and at a lag no smaller than any it saw. -/
theorem foldl_lagStep_successes (current : ReplicationLagResult κ ε) {after : List (ReplicationLagResult κ ε)}
    (successes : ∀ r ∈ after, r.err = none) :
    ∃ result, after.foldl lagStep (some current) = some result ∧ (result = current ∨ result ∈ after) ∧
      current.lag ≤ result.lag ∧ ∀ r ∈ after, r.lag ≤ result.lag := by
  induction after generalizing current with
  | nil => exact ⟨current, rfl, Or.inl rfl, Int.le_refl _, by simp⟩
  | cons r rest ih =>
    have success := successes r List.mem_cons_self
    let next := if r.lag > current.lag then r else current
    have stepped : lagStep (some current) r = some next := by
      rw [lagStep_of_success current r success]
      by_cases larger : r.lag > current.lag <;> simp [next, larger]
    have grows : current.lag ≤ next.lag ∧ r.lag ≤ next.lag := by
      by_cases larger : r.lag > current.lag <;> simp [next, larger] <;> omega
    obtain ⟨result, folded, source, above, bounds⟩ :=
      ih next fun r' member => successes r' (List.mem_cons_of_mem r member)
    refine ⟨result, by rw [List.foldl_cons, stepped, folded], ?_, Int.le_trans grows.1 above, ?_⟩
    · rcases source with rfl | later
      · by_cases larger : r.lag > current.lag
        · simp [next, larger]
        · simp [next, larger]
      · exact Or.inr (List.mem_cons_of_mem r later)
    · intro r' member
      rcases List.mem_cons.mp member with rfl | later
      · exact Int.le_trans grows.2 above
      · exact bounds r' later

/-- Results without error after an error, none with a larger lag: the error stays. -/
theorem foldl_lagStep_keeps {current : ReplicationLagResult κ ε} {after : List (ReplicationLagResult κ ε)}
    (smaller : ∀ r ∈ after, r.err = none ∧ r.lag ≤ current.lag) :
    after.foldl lagStep (some current) = some current := by
  induction after with
  | nil => rfl
  | cons r rest ih =>
    obtain ⟨success, notLarger⟩ := smaller r List.mem_cons_self
    have kept : lagStep (some current) r = some current := by
      rw [lagStep_of_success current r success, if_neg (by omega)]
    rw [List.foldl_cons, kept]
    exact ih fun r' member => smaller r' (List.mem_cons_of_mem r member)

/-- When no replica fails, the result has no error and the largest lag. -/
theorem readControlReplicasLag_of_successes {arrivals : List (ReplicationLagResult κ ε)}
    (successes : ∀ r ∈ arrivals, r.err = none) {result : ReplicationLagResult κ ε}
    (read : readControlReplicasLag arrivals = some result) :
    result.err = none ∧ result ∈ arrivals ∧ ∀ r ∈ arrivals, r.lag ≤ result.lag := by
  match arrivals, successes, read with
  | first :: rest, successes, read =>
    obtain ⟨final, folded, source, above, bounds⟩ :=
      foldl_lagStep_successes first fun r member => successes r (List.mem_cons_of_mem first member)
    have same : final = result := by
      simpa [readControlReplicasLag, lagStep, folded] using read
    subst same
    have member : final ∈ first :: rest := by
      rcases source with rfl | later
      · exact List.mem_cons_self
      · exact List.mem_cons_of_mem first later
    refine ⟨successes final member, member, ?_⟩
    intro r inArrivals
    rcases List.mem_cons.mp inArrivals with rfl | later
    · exact above
    · exact bounds r later

/-- The result carries an error exactly when the last replica to fail is followed only
by replicas without error and with no larger lag. -/
theorem readControlReplicasLag_err_iff (arrivals : List (ReplicationLagResult κ ε)) :
    (∃ result, readControlReplicasLag arrivals = some result ∧ result.err.isSome) ↔
      ∃ before failed after, arrivals = before ++ failed :: after ∧ failed.err.isSome ∧
        ∀ r ∈ after, r.err = none ∧ r.lag ≤ failed.lag := by
  constructor
  · rintro ⟨result, read, failing⟩
    have someError : ∃ r ∈ arrivals, r.err.isSome := by
      by_contra none
      simp only [not_exists, not_and, Option.not_isSome_iff_eq_none] at none
      have := (readControlReplicasLag_of_successes none read).1
      simp [this] at failing
    obtain ⟨before, failed, after, split, failedErr, lastError⟩ := Lib.exists_split_last someError
    have successes : ∀ r ∈ after, r.err = none := by
      intro r member
      simpa using lastError r member
    refine ⟨before, failed, after, split, failedErr, fun r member => ⟨successes r member, ?_⟩⟩
    obtain ⟨final, folded, source, _, bounds⟩ := foldl_lagStep_successes failed successes
    rw [split, readControlReplicasLag_append_cons before after failedErr, folded] at read
    cases read
    rcases source with rfl | later
    · exact bounds r member
    · simp [successes result later] at failing
  · rintro ⟨before, failed, after, rfl, failedErr, smaller⟩
    exact ⟨failed, by rw [readControlReplicasLag_append_cons before after failedErr, foldl_lagStep_keeps smaller],
      failedErr⟩

end Fold

/-- Replica 1 cannot be read, and its lag reads as zero; replica 2 lags 5 ms. When the
failure arrives first the result has no error and the throttler, at a threshold of one
second, does not throttle; when it arrives last, it throttles. -/
theorem unreachable_replica_throttles_by_order :
    ¬ (∃ result, readControlReplicasLag [⟨1, 0, some "connection refused"⟩, ⟨2, 5000000, none⟩] = some result ∧
        result.err.isSome) ∧
    (∃ result, readControlReplicasLag
        ([⟨2, 5000000, none⟩, ⟨1, 0, some "connection refused"⟩] : List (ReplicationLagResult Nat String)) =
          some result ∧ result.err.isSome) ∧
    throttlesOnControlReplicas (storedLagResult (readControlReplicasLag
      ([⟨1, 0, some "connection refused"⟩, ⟨2, 5000000, none⟩] : List (ReplicationLagResult Nat String)))) 1000 = false ∧
    throttlesOnControlReplicas (storedLagResult (readControlReplicasLag
      ([⟨2, 5000000, none⟩, ⟨1, 0, some "connection refused"⟩] : List (ReplicationLagResult Nat String)))) 1000 = true := by
  refine ⟨?_, (readControlReplicasLag_err_iff _).mpr ⟨[⟨2, 5000000, none⟩], _, [], rfl, rfl, by simp⟩, by decide,
    by decide⟩
  rw [readControlReplicasLag_err_iff]
  rintro ⟨before, failed, after, split, failedErr, smaller⟩
  match before, split with
  | [], split =>
    simp only [List.nil_append, List.cons.injEq] at split
    obtain ⟨rfl, rfl⟩ := split
    have := (smaller _ List.mem_cons_self).2
    simp at this
  | [_], split =>
    simp only [List.cons_append, List.nil_append, List.cons.injEq] at split
    obtain ⟨-, rfl, -⟩ := split
    simp at failedErr
  | _ :: _ :: _, split =>
    have := congrArg List.length split
    simp at this

end GhOst.Logic
