import GhOst.Lib.Machine
import GhOst.Logic.Server
import GhOst.Logic.Throttler

/-! The throttler (`throttler.go`): the goroutines that collect what may throttle the
migration, and `initiateThrottlerChecks`, which turns what they collected into the
throttled flag that `throttle` waits on before every write of the row copy and of the
binlog events. `collectGeneralThrottleMetrics` reads the critical load, the user's
command, the flag files, the max load and the throttle query once a second;
`collectThrottleHTTPStatus` stores the status code of the throttle URL;
`collectReplicationLag` and `collectControlReplicasLag` store the lags; and
`shouldThrottle` reads what they stored. A critical load hibernates the migration, aborts
it, or schedules a second check that may abort it.

The throttle state is one value the goroutines take turns on: each round reads every
field that another goroutine writes once, and writes fields no other round reads, so a
round that overlaps another acts as if it came before or after it. A Go `range` visits a
load map in an order of its choosing, given with each round.

Two things hold over every run. The throttle URL can be cleared while the last answer
stored from it is a failure, and nothing clears the stored status code then: every check
throttles until a URL is set again (`throttle_http_cleared_stays_throttled`). And a
`throttle` command, once the general collector has seen it, throttles every check until
`no-throttle`, whatever the other goroutines do (`user_throttle_holds`). Within a round,
the order of the max-load map changes only the reason it gives
(`max_load_decision_ignores_order`), while the order of the critical-load map decides
whether a variable that cannot be read hides one over its threshold, and so whether the
migration aborts (`critical_load_abort_depends_on_order`).

What `fmt` prints for a time and for a duration in seconds is taken as given
(`ThrottleFormat`), as are the readings of the server, the files and the URL. -/

namespace GhOst.Logic

open GhOst.Base GhOst.Mysql

/-- `ThrottleReasonHint`. The zero value of the type, the empty hint a context starts
with, is read as `NoThrottleReasonHint`: nothing tells the two apart. -/
inductive ThrottleReasonHint where
  | noThrottleReasonHint
  | userCommandThrottleReasonHint
  | leavingHibernationThrottleReasonHint
  deriving DecidableEq, Repr

/-- `ThrottleCheckResult`. -/
structure ThrottleCheckResult where
  shouldThrottle : Bool
  reason : String
  reasonHint : ThrottleReasonHint
  deriving DecidableEq, Repr

/-- Go's zero `InstanceKey`, the key of `NewNoReplicationLagResult`. -/
instance : Inhabited InstanceKey := ⟨⟨"", 0⟩⟩

/-- The flags of `MigrationContext` the throttler reads and no command sets. -/
structure ThrottleConfig where
  throttleFlagFile : String
  throttleAdditionalFlagFile : String
  panicFlagFile : String
  criticalLoadIntervalMilliseconds : Int64
  criticalLoadHibernateSeconds : Int64
  ignoreHTTPErrors : Bool
  testOnReplica : Bool
  migrateOnReplica : Bool

/-- The throttle flags at their defaults in `main.go`. -/
def defaultThrottleConfig : ThrottleConfig where
  throttleFlagFile := ""
  throttleAdditionalFlagFile := "/tmp/gh-ost.throttle"
  panicFlagFile := ""
  criticalLoadIntervalMilliseconds := 0
  criticalLoadHibernateSeconds := 0
  ignoreHTTPErrors := false
  testOnReplica := false
  migrateOnReplica := false

/-- What `fmt` prints for `%+v` of `time.Unix(0, HibernateUntil)`, in the local time
zone, and for `%f` of a duration's `Seconds()`. -/
structure ThrottleFormat where
  time : Int64 → String
  seconds : Int → String

/-- The fields of `MigrationContext` the throttle goroutines read and write, beside those
the interactive commands set. `hibernationTimers` and `criticalLoadRechecks` count the
goroutines asleep before they end a hibernation or check the critical load again;
`changelog` holds the values written under the `throttle` hint of the changelog table,
oldest first. -/
structure ThrottleState where
  context : CommandContext
  hibernateUntil : Int64
  throttleGeneralCheckResult : ThrottleCheckResult
  throttleHTTPStatusCode : Int64
  currentLag : Int64
  controlReplicasLagResult : ReplicationLagResult InstanceKey String
  isThrottled : Bool
  throttleReason : String
  throttleReasonHint : ThrottleReasonHint
  inCutOverCriticalSectionFlag : Int64
  allEventsUpToLockProcessedInjectedFlag : Int64
  cleanupImminentFlag : Int64
  hibernationTimers : Nat
  criticalLoadRechecks : Nat
  changelog : List String

/-- `httpStatusMessages`. -/
def httpStatusMessages : List (Int64 × String) :=
  [(200, "OK"), (404, "Not found"), (417, "Expectation failed"), (429, "Too many requests"),
    (500, "Internal server error"), (-1, "Connection error")]

/-- `httpStatusFrenoMessages`. -/
def httpStatusFrenoMessages : List (Int64 × String) :=
  [(200, "OK"), (404, "freno: unknown metric"), (417, "freno: access forbidden"), (429, "freno: threshold exceeded"),
    (500, "freno: internal error"), (-1, "freno: connection error")]

/-- `frenoMagicHint`. -/
def frenoMagicHint : String := "freno"

/-- `throttleHttpMessage`, with the throttle URL it reads. -/
def throttleHttpMessage (throttleHttp : String) (statusCode : Int64) : String :=
  let statusCodesMap :=
    if Go.Strings.Contains throttleHttp.toList frenoMagicHint.toList then httpStatusFrenoMessages
    else httpStatusMessages
  match statusCodesMap.lookup statusCode with
  | some message => message ++ " (http=" ++ toString statusCode ++ ")"
  | none => "http=" ++ toString statusCode

/-! ## The load maps -/

/-- An order in which `range` may visit a load map: each entry once. -/
def Visits (order : List (Σ _ : String, Int64)) (loadMap : LoadMap) : Prop :=
  (order : Multiset (Σ _ : String, Int64)) = loadMap.entries

instance (order : List (Σ _ : String, Int64)) (loadMap : LoadMap) : Decidable (Visits order loadMap) :=
  inferInstanceAs (Decidable (_ = _))

/-- The loop over a load map of `criticalLoadIsMet` and of `collectGeneralThrottleMetrics`:
the first variable, in the order visited, that `ShowStatusVariable` cannot read or reads
at its threshold, with the threshold and what was read. -/
def loadMapHit (showStatusVariable : String → Except String Int64) :
    List (Σ _ : String, Int64) → Option (String × Int64 × Except String Int64)
  | [] => none
  | ⟨variableName, threshold⟩ :: rest =>
    match showStatusVariable variableName with
    | .error err => some (variableName, threshold, .error err)
    | .ok value =>
      if value ≥ threshold then some (variableName, threshold, .ok value) else loadMapHit showStatusVariable rest

theorem loadMapHit_nil (showStatusVariable : String → Except String Int64) : loadMapHit showStatusVariable [] = none :=
  rfl

theorem loadMapHit_cons (showStatusVariable : String → Except String Int64) (entry : Σ _ : String, Int64)
    (rest : List (Σ _ : String, Int64)) :
    loadMapHit showStatusVariable (entry :: rest) =
      match showStatusVariable entry.1 with
      | .error err => some (entry.1, entry.2, .error err)
      | .ok value => if value ≥ entry.2 then some (entry.1, entry.2, .ok value) else loadMapHit showStatusVariable rest :=
  rfl

/-- `criticalLoadIsMet`: a hit with an error is `(false, name, 0, threshold, err)`, a hit
with a value is `(true, name, value, threshold, nil)`, and `none` is a loop that ran out,
whose name, value and threshold of the last variable no caller reads. -/
def criticalLoadIsMet (showStatusVariable : String → Except String Int64) (criticalLoad : List (Σ _ : String, Int64)) :
    Option (String × Int64 × Except String Int64) :=
  loadMapHit showStatusVariable criticalLoad

/-! ## The goroutines -/

/-- What one round of `collectGeneralThrottleMetrics` reads outside the context: the files
that exist, the status variables, what `ExecuteThrottleQuery` returns (0 on an error, which
the round ignores), the clock in nanoseconds, and the orders in which `range` visits the
critical-load and the max-load maps. -/
structure GeneralReadings where
  fileExists : String → Bool
  showStatusVariable : String → Except String Int64
  throttleQueryResult : Int64
  now : Int64
  criticalLoadOrder : List (Σ _ : String, Int64)
  maxLoadOrder : List (Σ _ : String, Int64)

namespace ThrottleState

/-- `SetThrottleGeneralCheckResult`. -/
def setThrottleGeneralCheckResult (this : ThrottleState) (throttle : Bool) (reason : String)
    (reasonHint : ThrottleReasonHint) : ThrottleState :=
  { this with throttleGeneralCheckResult := ⟨throttle, reason, reasonHint⟩ }

/-- A send on `PanicAbort`. -/
def panicAbort (this : ThrottleState) (err : String) : ThrottleState :=
  { this with context := { this.context with panicAbort := this.context.panicAbort ++ [err] } }

/-- The throttle considerations `collectGeneralThrottleMetrics` ends with: the user's
command, the two flag files, the max load and the throttle query, in this order. -/
def generalThrottleReasons (config : ThrottleConfig) (readings : GeneralReadings) (this : ThrottleState) :
    ThrottleState :=
  if this.context.throttleCommandedByUser > 0 then
    this.setThrottleGeneralCheckResult true "commanded by user" .userCommandThrottleReasonHint
  else if config.throttleFlagFile ≠ "" ∧ readings.fileExists config.throttleFlagFile = true then
    this.setThrottleGeneralCheckResult true "flag-file" .noThrottleReasonHint
  else if config.throttleAdditionalFlagFile ≠ "" ∧ readings.fileExists config.throttleAdditionalFlagFile = true then
    this.setThrottleGeneralCheckResult true "flag-file" .noThrottleReasonHint
  else
    match loadMapHit readings.showStatusVariable readings.maxLoadOrder with
    | some (variableName, _, .error err) =>
      this.setThrottleGeneralCheckResult true (variableName ++ " " ++ err) .noThrottleReasonHint
    | some (variableName, threshold, .ok value) =>
      this.setThrottleGeneralCheckResult true
        ("max-load " ++ variableName ++ "=" ++ toString value ++ " >= " ++ toString threshold) .noThrottleReasonHint
    | none =>
      if this.context.throttleQuery ≠ "" ∧ readings.throttleQueryResult > 0 then
        this.setThrottleGeneralCheckResult true "throttle-query" .noThrottleReasonHint
      else this.setThrottleGeneralCheckResult false "" .noThrottleReasonHint

/-- The panic flag file, which a round checks whatever the throttle. -/
def checkPanicFlagFile (config : ThrottleConfig) (readings : GeneralReadings) (this : ThrottleState) : ThrottleState :=
  if config.panicFlagFile ≠ "" ∧ readings.fileExists config.panicFlagFile = true then
    this.panicAbort ("Found panic-file " ++ config.panicFlagFile ++ ". Aborting without cleanup")
  else this

/-- A critical load that `variableName` meets at `value` over `threshold`: a hibernation, or
an abort at once or after a second check, and then the throttle considerations. -/
def onCriticalLoadMet (config : ThrottleConfig) (readings : GeneralReadings) (variableName : String)
    (threshold value : Int64) (this : ThrottleState) : ThrottleState :=
  if config.criticalLoadHibernateSeconds > 0 then
    -- the goroutine started here ends the hibernation
    { this with
      hibernateUntil := readings.now + config.criticalLoadHibernateSeconds * 1000000000
      hibernationTimers := this.hibernationTimers + 1 }
  else
    let this :=
      if config.criticalLoadIntervalMilliseconds = 0 then
        this.panicAbort ("critical-load met: " ++ variableName ++ "=" ++ toString value ++ ", >=" ++ toString threshold)
      else this
    let this :=
      if config.criticalLoadIntervalMilliseconds > 0 then
        { this with criticalLoadRechecks := this.criticalLoadRechecks + 1 }
      else this
    this.generalThrottleReasons config readings

/-- One round of `collectGeneralThrottleMetrics`. -/
def collectGeneralThrottleMetrics (config : ThrottleConfig) (readings : GeneralReadings) (this : ThrottleState) :
    ThrottleState :=
  if this.hibernateUntil > 0 then this
  else
    let this := this.checkPanicFlagFile config readings
    match criticalLoadIsMet readings.showStatusVariable readings.criticalLoadOrder with
    | some (variableName, _, .error err) =>
      this.setThrottleGeneralCheckResult true (variableName ++ " " ++ err) .noThrottleReasonHint
    | some (variableName, threshold, .ok value) => this.onCriticalLoadMet config readings variableName threshold value
    | none => this.generalThrottleReasons config readings

/-- The goroutine a hibernation starts, when its sleep ends. -/
def leaveHibernation (this : ThrottleState) : ThrottleState :=
  { this.setThrottleGeneralCheckResult true "leaving hibernation" .leavingHibernationThrottleReasonHint with
    hibernateUntil := 0
    hibernationTimers := this.hibernationTimers - 1 }

/-- The goroutine a critical load met once starts, when its timer fires: it aborts when the
critical load is met again. -/
def recheckCriticalLoad (config : ThrottleConfig) (showStatusVariable : String → Except String Int64)
    (criticalLoad : List (Σ _ : String, Int64)) (this : ThrottleState) : ThrottleState :=
  let this := { this with criticalLoadRechecks := this.criticalLoadRechecks - 1 }
  match criticalLoadIsMet showStatusVariable criticalLoad with
  | some (variableName, threshold, .ok value) =>
    this.panicAbort ("critical-load met again after " ++ toString config.criticalLoadIntervalMilliseconds ++
      " millis: " ++ variableName ++ "=" ++ toString value ++ ", >=" ++ toString threshold)
  | _ => this

/-- One round of `collectThrottleHTTPStatus`, with what the request to the URL returns: a
status code, or an error that throttles as `-1` unless `--ignore-http-errors`. -/
def collectThrottleHTTPStatus (config : ThrottleConfig) (answer : Except String Int64) (this : ThrottleState) :
    ThrottleState :=
  if this.hibernateUntil > 0 then this
  else if this.context.throttleHTTP = "" then this
  else
    match answer with
    | .ok statusCode => { this with throttleHTTPStatusCode := statusCode }
    | .error _ => if config.ignoreHTTPErrors then this else { this with throttleHTTPStatusCode := -1 }

/-- One round of `collectReplicationLag`, with the lag read from the changelog heartbeat
(or from `SHOW SLAVE STATUS` on a replica), or the error reading it. -/
def collectReplicationLag (reading : Except String Int64) (this : ThrottleState) : ThrottleState :=
  if this.cleanupImminentFlag > 0 then this
  else if this.hibernateUntil > 0 then this
  else
    match reading with
    | .ok lag => { this with currentLag := lag }
    | .error _ => this

/-- On a replica, once the cut-over has injected its marker, the control replicas are
neither read nor checked. -/
def skipsControlReplicas (config : ThrottleConfig) (this : ThrottleState) : Bool :=
  (config.testOnReplica || config.migrateOnReplica) && decide (this.allEventsUpToLockProcessedInjectedFlag > 0)

/-- `checkControlReplicasLag`, with the lag results in the order they arrive. -/
def checkControlReplicasLag (config : ThrottleConfig) (arrivals : List (ReplicationLagResult InstanceKey String))
    (this : ThrottleState) : ThrottleState :=
  if this.skipsControlReplicas config then this
  else { this with controlReplicasLagResult := storedLagResult (readControlReplicasLag arrivals) }

/-- The reason `shouldThrottle` gives for the control replicas: the error, else the lag. -/
def controlReplicasReason (format : ThrottleFormat) (lagResult : ReplicationLagResult InstanceKey String) : String :=
  match lagResult.err with
  | some err => lagResult.key.stringCode ++ " " ++ err
  | none => lagResult.key.stringCode ++ " replica-lag=" ++ format.seconds lagResult.lag ++ "s"

/-- `shouldThrottle`: hibernation, the general check, the HTTP status, the lag and the
control replicas, in this order. -/
def shouldThrottle (config : ThrottleConfig) (format : ThrottleFormat) (this : ThrottleState) :
    Bool × String × ThrottleReasonHint :=
  if this.hibernateUntil > 0 then
    (true, "critical-load-hibernate until " ++ format.time this.hibernateUntil, .noThrottleReasonHint)
  else if this.throttleGeneralCheckResult.shouldThrottle then
    (this.throttleGeneralCheckResult.shouldThrottle, this.throttleGeneralCheckResult.reason,
      this.throttleGeneralCheckResult.reasonHint)
  else if this.throttleHTTPStatusCode ≠ 0 ∧ this.throttleHTTPStatusCode ≠ 200 then
    (true, throttleHttpMessage this.context.throttleHTTP this.throttleHTTPStatusCode, .noThrottleReasonHint)
  else if this.currentLag.toInt > this.context.maxLagMillisecondsThrottleThreshold.toInt * 1000000 then
    (true, "lag=" ++ format.seconds this.currentLag.toInt ++ "s", .noThrottleReasonHint)
  else if !this.skipsControlReplicas config &&
      throttlesOnControlReplicas this.controlReplicasLagResult this.context.maxLagMillisecondsThrottleThreshold.toInt then
    (true, controlReplicasReason format this.controlReplicasLagResult, .noThrottleReasonHint)
  else (false, "", .noThrottleReasonHint)

/-- `IsThrottled`, the reader of the field `isThrottled`: inside the cut-over's critical
section nothing throttles. -/
def IsThrottled (this : ThrottleState) : Bool × String × ThrottleReasonHint :=
  if this.inCutOverCriticalSectionFlag > 0 then (false, "critical section", .noThrottleReasonHint)
  else (this.isThrottled, this.throttleReason, this.throttleReasonHint)

/-- The `throttlerFunction` of `initiateThrottlerChecks`: a new throttling and a change of
reason are written to the changelog with the reason, the end of throttling as `done
throttling`, and the decision is stored. -/
def throttlerFunction (config : ThrottleConfig) (format : ThrottleFormat) (this : ThrottleState) : ThrottleState :=
  let alreadyThrottling := this.IsThrottled.1
  let currentReason := this.IsThrottled.2.1
  let decision := this.shouldThrottle config format
  let changelog :=
    if decision.1 && !alreadyThrottling then this.changelog ++ [decision.2.1]
    else if decision.1 && alreadyThrottling && currentReason != decision.2.1 then this.changelog ++ [decision.2.1]
    else if alreadyThrottling && !decision.1 then this.changelog ++ ["done throttling"]
    else this.changelog
  { this with
    changelog
    isThrottled := decision.1
    throttleReason := decision.2.1
    throttleReasonHint := decision.2.2 }

/-- The state `NewMigrationContext` starts the throttler from, with the context the
commands act on. -/
def start (context : CommandContext) : ThrottleState where
  context
  hibernateUntil := 0
  throttleGeneralCheckResult := ⟨false, "", .noThrottleReasonHint⟩
  throttleHTTPStatusCode := 0
  currentLag := 0
  controlReplicasLagResult := storedLagResult none
  isThrottled := false
  throttleReason := ""
  throttleReasonHint := .noThrottleReasonHint
  inCutOverCriticalSectionFlag := 0
  allEventsUpToLockProcessedInjectedFlag := 0
  cleanupImminentFlag := 0
  hibernationTimers := 0
  criticalLoadRechecks := 0
  changelog := []

end ThrottleState

/-- One round of one goroutine: an interactive command, a round of a collector or of the
checks, a timer of the critical load firing, and the flags the cut-over and the cleanup
set. -/
inductive ThrottleEvent where
  | command (line : String)
  | collectGeneral (readings : GeneralReadings)
  | leaveHibernation
  | recheckCriticalLoad (showStatusVariable : String → Except String Int64) (order : List (Σ _ : String, Int64))
  | collectHTTP (answer : Except String Int64)
  | collectLag (reading : Except String Int64)
  | collectControlReplicas (arrivals : List (ReplicationLagResult InstanceKey String))
  | check
  | criticalSection (flag : Int64)
  | allEventsUpToLockProcessed (flag : Int64)
  | cleanupImminent

open ThrottleState in
/-- The throttle state after an event, if the event can happen: a timer fires only when a
goroutine sleeps on it, and a load map is visited in an order of its entries. -/
def throttleStep (env : ServerEnvironment) (config : ThrottleConfig) (format : ThrottleFormat) (this : ThrottleState) :
    ThrottleEvent → Option ThrottleState
  | .command line => some { this with context := (applyServerCommand env this.context line).2.2 }
  | .collectGeneral readings =>
    if Visits readings.criticalLoadOrder this.context.criticalLoad ∧ Visits readings.maxLoadOrder this.context.maxLoad
    then some (this.collectGeneralThrottleMetrics config readings) else none
  | .leaveHibernation => if this.hibernationTimers > 0 then some this.leaveHibernation else none
  | .recheckCriticalLoad showStatusVariable order =>
    if this.criticalLoadRechecks > 0 ∧ Visits order this.context.criticalLoad
    then some (this.recheckCriticalLoad config showStatusVariable order) else none
  | .collectHTTP answer => some (this.collectThrottleHTTPStatus config answer)
  | .collectLag reading => some (this.collectReplicationLag reading)
  | .collectControlReplicas arrivals => some (this.checkControlReplicasLag config arrivals)
  | .check => some (this.throttlerFunction config format)
  | .criticalSection flag => some { this with inCutOverCriticalSectionFlag := flag }
  | .allEventsUpToLockProcessed flag => some { this with allEventsUpToLockProcessedInjectedFlag := flag }
  | .cleanupImminent => some { this with cleanupImminentFlag := 1 }

/-! ## What each round writes -/

namespace ThrottleState

section Rounds

variable (config : ThrottleConfig) (readings : GeneralReadings) (this : ThrottleState)

/-- A round during a hibernation reads nothing and writes nothing. -/
theorem collectGeneralThrottleMetrics_of_hibernating (hibernating : this.hibernateUntil > 0) :
    this.collectGeneralThrottleMetrics config readings = this :=
  if_pos hibernating

/-- A round when awake checks the panic flag file, then the critical load. -/
theorem collectGeneralThrottleMetrics_of_awake (awake : ¬ this.hibernateUntil > 0) :
    this.collectGeneralThrottleMetrics config readings =
      match criticalLoadIsMet readings.showStatusVariable readings.criticalLoadOrder with
      | some (variableName, _, .error err) =>
        (this.checkPanicFlagFile config readings).setThrottleGeneralCheckResult true (variableName ++ " " ++ err)
          .noThrottleReasonHint
      | some (variableName, threshold, .ok value) =>
        (this.checkPanicFlagFile config readings).onCriticalLoadMet config readings variableName threshold value
      | none => (this.checkPanicFlagFile config readings).generalThrottleReasons config readings :=
  if_neg awake

theorem generalThrottleReasons_of_commanded (commanded : this.context.throttleCommandedByUser > 0) :
    this.generalThrottleReasons config readings =
      this.setThrottleGeneralCheckResult true "commanded by user" .userCommandThrottleReasonHint :=
  if_pos commanded

/-- The throttle considerations end in a general check result and write nothing else. -/
theorem generalThrottleReasons_eq : ∃ throttle reason reasonHint,
    this.generalThrottleReasons config readings = this.setThrottleGeneralCheckResult throttle reason reasonHint := by
  unfold generalThrottleReasons
  -- every branch, the max-load loop's and the throttle query's included, sets the result
  split_ifs <;> try split
  all_goals exact ⟨_, _, _, rfl⟩

theorem generalThrottleReasons_context : (this.generalThrottleReasons config readings).context = this.context := by
  obtain ⟨throttle, reason, reasonHint, eq⟩ := generalThrottleReasons_eq config readings this
  rw [eq]
  rfl

section Preserves

variable (holds : ThrottleState → Prop)
  (sets : ∀ state throttle reason reasonHint, holds state →
    holds (state.setThrottleGeneralCheckResult throttle reason reasonHint))
  (aborts : ∀ state err, holds state → holds (state.panicAbort err))
  (hibernates : ∀ state hibernateUntil, holds state →
    holds { state with hibernateUntil, hibernationTimers := state.hibernationTimers + 1 })
  (schedules : ∀ state, holds state → holds { state with criticalLoadRechecks := state.criticalLoadRechecks + 1 })

include sets aborts hibernates schedules in
theorem onCriticalLoadMet_preserves (variableName : String) (threshold value : Int64) (start : holds this) :
    holds (this.onCriticalLoadMet config readings variableName threshold value) := by
  have reasons : ∀ state, holds state → holds (state.generalThrottleReasons config readings) := by
    intro state held
    obtain ⟨throttle, reason, reasonHint, eq⟩ := generalThrottleReasons_eq config readings state
    rw [eq]
    exact sets state throttle reason reasonHint held
  unfold onCriticalLoadMet
  split_ifs
  · exact hibernates this _ start
  · exact reasons _ (schedules _ (aborts this _ start))
  · exact reasons _ (aborts this _ start)
  · exact reasons _ (schedules this start)
  · exact reasons this start

include sets aborts hibernates schedules in
/-- The invariant rule of a round of `collectGeneralThrottleMetrics`: what holds of the
state and is kept by each write the round can make holds after it. -/
theorem collectGeneralThrottleMetrics_preserves (start : holds this) :
    holds (this.collectGeneralThrottleMetrics config readings) := by
  by_cases hibernating : this.hibernateUntil > 0
  · rw [collectGeneralThrottleMetrics_of_hibernating config readings this hibernating]
    exact start
  have held : holds (this.checkPanicFlagFile config readings) := by
    unfold checkPanicFlagFile
    split_ifs
    · exact aborts this _ start
    · exact start
  rw [collectGeneralThrottleMetrics_of_awake config readings this hibernating]
  generalize this.checkPanicFlagFile config readings = filed at held ⊢
  split
  · exact sets filed _ _ _ held
  · exact onCriticalLoadMet_preserves config readings filed holds sets aborts hibernates schedules _ _ _ held
  · obtain ⟨throttle, reason, reasonHint, eq⟩ := generalThrottleReasons_eq config readings filed
    rw [eq]
    exact sets filed throttle reason reasonHint held

end Preserves

/-- A round of `collectGeneralThrottleMetrics` writes the aborts, the general check result,
the hibernation and the goroutines it starts, and nothing else. -/
theorem collectGeneralThrottleMetrics_frame : ∃ aborts general hibernateUntil hibernationTimers criticalLoadRechecks,
    this.collectGeneralThrottleMetrics config readings =
      { this with
        context := { this.context with panicAbort := aborts }
        throttleGeneralCheckResult := general
        hibernateUntil
        hibernationTimers
        criticalLoadRechecks } := by
  refine collectGeneralThrottleMetrics_preserves config readings this
    (fun state => ∃ aborts general hibernateUntil hibernationTimers criticalLoadRechecks,
      state = { this with
        context := { this.context with panicAbort := aborts }
        throttleGeneralCheckResult := general
        hibernateUntil
        hibernationTimers
        criticalLoadRechecks }) ?_ ?_ ?_ ?_ ⟨_, _, _, _, _, rfl⟩
  · rintro state throttle reason reasonHint ⟨aborts, general, hibernateUntil, timers, rechecks, rfl⟩
    exact ⟨aborts, _, hibernateUntil, timers, rechecks, rfl⟩
  · rintro state err ⟨aborts, general, hibernateUntil, timers, rechecks, rfl⟩
    exact ⟨aborts ++ [err], general, hibernateUntil, timers, rechecks, rfl⟩
  · rintro state later ⟨aborts, general, hibernateUntil, timers, rechecks, rfl⟩
    exact ⟨aborts, general, later, timers + 1, rechecks, rfl⟩
  · rintro state ⟨aborts, general, hibernateUntil, timers, rechecks, rfl⟩
    exact ⟨aborts, general, hibernateUntil, timers, rechecks + 1, rfl⟩

/-- A round that sees the user's command ends in a throttling general result, but for one
that hibernates, which keeps the result it found. -/
theorem collectGeneralThrottleMetrics_of_commanded (commanded : this.context.throttleCommandedByUser > 0)
    (awake : ¬ this.hibernateUntil > 0) :
    (this.collectGeneralThrottleMetrics config readings).throttleGeneralCheckResult.shouldThrottle = true ∨
      ((this.collectGeneralThrottleMetrics config readings).throttleGeneralCheckResult = this.throttleGeneralCheckResult ∧
        (this.collectGeneralThrottleMetrics config readings).hibernateUntil =
          readings.now + config.criticalLoadHibernateSeconds * 1000000000) := by
  have reasons : ∀ state : ThrottleState, state.context.throttleCommandedByUser > 0 →
      (state.generalThrottleReasons config readings).throttleGeneralCheckResult.shouldThrottle = true := by
    intro state commanded
    rw [generalThrottleReasons_of_commanded config readings state commanded]
    rfl
  have filed : (this.checkPanicFlagFile config readings).context.throttleCommandedByUser > 0 ∧
      (this.checkPanicFlagFile config readings).throttleGeneralCheckResult = this.throttleGeneralCheckResult := by
    unfold checkPanicFlagFile
    split_ifs
    · exact ⟨commanded, rfl⟩
    · exact ⟨commanded, rfl⟩
  rw [collectGeneralThrottleMetrics_of_awake config readings this awake]
  generalize this.checkPanicFlagFile config readings = filed' at filed ⊢
  obtain ⟨filedCommanded, filedGeneral⟩ := filed
  split
  · exact .inl rfl
  · unfold onCriticalLoadMet
    split_ifs
    · exact .inr ⟨filedGeneral, rfl⟩
    all_goals exact .inl (reasons _ filedCommanded)
  · exact .inl (reasons filed' filedCommanded)

theorem recheckCriticalLoad_frame (showStatusVariable : String → Except String Int64)
    (criticalLoad : List (Σ _ : String, Int64)) : ∃ aborts,
    this.recheckCriticalLoad config showStatusVariable criticalLoad =
      { this with
        context := { this.context with panicAbort := aborts }
        criticalLoadRechecks := this.criticalLoadRechecks - 1 } := by
  unfold recheckCriticalLoad
  split
  · exact ⟨_, rfl⟩
  · exact ⟨_, rfl⟩

theorem collectThrottleHTTPStatus_frame (answer : Except String Int64) :
    ∃ statusCode, this.collectThrottleHTTPStatus config answer = { this with throttleHTTPStatusCode := statusCode } := by
  unfold collectThrottleHTTPStatus
  -- every branch keeps the state or stores a code
  split_ifs <;> try split
  all_goals exact ⟨_, rfl⟩

/-- With the throttle URL cleared, the HTTP collector requests nothing and stores nothing. -/
theorem collectThrottleHTTPStatus_of_cleared (cleared : this.context.throttleHTTP = "") (answer : Except String Int64) :
    this.collectThrottleHTTPStatus config answer = this := by
  unfold collectThrottleHTTPStatus
  split_ifs <;> rfl

theorem collectReplicationLag_frame (reading : Except String Int64) :
    ∃ lag, this.collectReplicationLag reading = { this with currentLag := lag } := by
  unfold collectReplicationLag
  split_ifs
  · exact ⟨_, rfl⟩
  · exact ⟨_, rfl⟩
  · split
    · exact ⟨_, rfl⟩
    · exact ⟨_, rfl⟩

theorem checkControlReplicasLag_frame (arrivals : List (ReplicationLagResult InstanceKey String)) :
    ∃ lagResult, this.checkControlReplicasLag config arrivals = { this with controlReplicasLagResult := lagResult } := by
  unfold checkControlReplicasLag
  split_ifs
  · exact ⟨_, rfl⟩
  · exact ⟨_, rfl⟩

end Rounds

end ThrottleState

/-! ## What the commands write that the throttler reads -/

namespace ServerCommand.Writes

variable {this next : CommandContext} {c : ServerCommand}

/-- Only `throttle-http` writes the throttle URL. -/
theorem throttleHTTP_eq (writes : c.Writes this next) (other : c ≠ .throttleHTTP) :
    next.throttleHTTP = this.throttleHTTP := by
  cases c with
  | throttleHTTP => exact absurd rfl other
  | help | sup | status | cpuProfile | coordinates | applier | inspector | replicationLagQuery => exact writes.elim
  | chunkSize | dmlBatchSize | maxLagMillis | niceRatio | maxLoad | criticalLoad | throttleQuery
  | throttleControlReplicas | postponeCutOverFlagFile =>
    obtain ⟨_, rfl⟩ := writes
    rfl
  | throttle | noThrottle | unpostpone | panic =>
    subst writes
    rfl

/-- Only `no-throttle` ends the user's throttle; `throttle` starts it. -/
theorem throttleCommandedByUser_pos (writes : c.Writes this next) (other : c ≠ .noThrottle)
    (commanded : this.throttleCommandedByUser > 0) : next.throttleCommandedByUser > 0 := by
  cases c with
  | noThrottle => exact absurd rfl other
  | throttle =>
    subst writes
    show (1 : Int64) > 0
    decide
  | help | sup | status | cpuProfile | coordinates | applier | inspector | replicationLagQuery => exact writes.elim
  | chunkSize | dmlBatchSize | maxLagMillis | niceRatio | maxLoad | criticalLoad | throttleQuery | throttleHTTP
  | throttleControlReplicas | postponeCutOverFlagFile =>
    obtain ⟨_, rfl⟩ := writes
    exact commanded
  | unpostpone | panic =>
    subst writes
    exact commanded

end ServerCommand.Writes

theorem applyServerCommand_throttleHTTP {env : ServerEnvironment} {this : CommandContext} {line : String}
    (other : ServerCommand.ofName (commandAndArg line).1 ≠ some .throttleHTTP) :
    (applyServerCommand env this line).2.2.throttleHTTP = this.throttleHTTP := by
  rcases applyServerCommand_writes env this line with same | ⟨c, named, writes⟩
  · rw [same]
  · exact writes.throttleHTTP_eq fun isHTTP => other (isHTTP ▸ named)

theorem applyServerCommand_throttleCommandedByUser {env : ServerEnvironment} {this : CommandContext} {line : String}
    (other : ServerCommand.ofName (commandAndArg line).1 ≠ some .noThrottle)
    (commanded : this.throttleCommandedByUser > 0) :
    (applyServerCommand env this line).2.2.throttleCommandedByUser > 0 := by
  rcases applyServerCommand_writes env this line with same | ⟨c, named, writes⟩
  · rw [same]
    exact commanded
  · exact writes.throttleCommandedByUser_pos (fun isRelease => other (isRelease ▸ named)) commanded

/-! ## The decision -/

namespace ThrottleState

variable (config : ThrottleConfig) (format : ThrottleFormat) (this : ThrottleState)

/-- After a check, `IsThrottled` reports the decision, but inside the critical section. -/
theorem IsThrottled_throttlerFunction : (this.throttlerFunction config format).IsThrottled.1 =
    ((this.shouldThrottle config format).1 && decide (¬ this.inCutOverCriticalSectionFlag > 0)) := by
  unfold IsThrottled
  by_cases critical : this.inCutOverCriticalSectionFlag > 0
  · simp [throttlerFunction, critical]
  · simp [throttlerFunction, critical]

theorem IsThrottled_throttlerFunction_of_shouldThrottle (throttles : (this.shouldThrottle config format).1 = true) :
    (this.throttlerFunction config format).IsThrottled.1 = decide (¬ this.inCutOverCriticalSectionFlag > 0) := by
  rw [IsThrottled_throttlerFunction, throttles, Bool.true_and]

/-- A stored HTTP status other than 0 and 200 throttles. -/
theorem shouldThrottle_of_statusCode (failed : this.throttleHTTPStatusCode ≠ 0 ∧ this.throttleHTTPStatusCode ≠ 200) :
    (this.shouldThrottle config format).1 = true := by
  unfold shouldThrottle
  by_cases hibernating : this.hibernateUntil > 0
  · simp [hibernating]
  by_cases general : this.throttleGeneralCheckResult.shouldThrottle = true
  · simp [hibernating, general]
  · simp [hibernating, general, failed]

/-- A throttling general result, or a hibernation, throttles. -/
theorem shouldThrottle_of_general
    (throttles : this.throttleGeneralCheckResult.shouldThrottle = true ∨ this.hibernateUntil > 0) :
    (this.shouldThrottle config format).1 = true := by
  unfold shouldThrottle
  rcases throttles with general | hibernating
  · by_cases hibernating : this.hibernateUntil > 0
    · simp [hibernating]
    · simp [hibernating, general]
  · simp [hibernating]

end ThrottleState

/-! ## Every event, one step at a time -/

/-- The events that write none of what the decision reads from the commands, the general
collector and the HTTP collector: the critical-load recheck writes only the aborts, the lag
collectors their lags, the check its decision, and the cut-over and the cleanup their flags. -/
def ThrottleEvent.Quiet : ThrottleEvent → Prop
  | .recheckCriticalLoad _ _ | .collectLag _ | .collectControlReplicas _ | .check | .criticalSection _
  | .allEventsUpToLockProcessed _ | .cleanupImminent => True
  | .command _ | .collectGeneral _ | .leaveHibernation | .collectHTTP _ => False

/-- An interactive `throttle-http` command, the one way to set the throttle URL. -/
def ThrottleEvent.SetsThrottleHTTP : ThrottleEvent → Prop
  | .command line => ServerCommand.ofName (commandAndArg line).1 = some .throttleHTTP
  | _ => False

/-- An interactive `no-throttle` command, the one way to end the user's throttle. -/
def ThrottleEvent.ReleasesUserThrottle : ThrottleEvent → Prop
  | .command line => ServerCommand.ofName (commandAndArg line).1 = some .noThrottle
  | _ => False

section Steps

variable {env : ServerEnvironment} {config : ThrottleConfig} {format : ThrottleFormat} {this next : ThrottleState}
  {event : ThrottleEvent}

open ThrottleState

theorem throttleStep_of_quiet (quiet : event.Quiet) (stepped : throttleStep env config format this event = some next) :
    next.context.throttleHTTP = this.context.throttleHTTP ∧
      next.context.throttleCommandedByUser = this.context.throttleCommandedByUser ∧
      next.throttleGeneralCheckResult = this.throttleGeneralCheckResult ∧ next.hibernateUntil = this.hibernateUntil ∧
      next.throttleHTTPStatusCode = this.throttleHTTPStatusCode := by
  cases event with
  | command | collectGeneral | leaveHibernation | collectHTTP => exact quiet.elim
  | recheckCriticalLoad showStatusVariable order =>
    have guarded : (if this.criticalLoadRechecks > 0 ∧ Visits order this.context.criticalLoad
        then some (this.recheckCriticalLoad config showStatusVariable order) else none) = some next := stepped
    obtain ⟨-, rfl⟩ := Option.ite_some_none_eq_some.mp guarded
    obtain ⟨aborts, eq⟩ := this.recheckCriticalLoad_frame config showStatusVariable order
    rw [eq]
    exact ⟨rfl, rfl, rfl, rfl, rfl⟩
  | collectLag reading =>
    cases stepped
    obtain ⟨lag, eq⟩ := this.collectReplicationLag_frame reading
    rw [eq]
    exact ⟨rfl, rfl, rfl, rfl, rfl⟩
  | collectControlReplicas arrivals =>
    cases stepped
    obtain ⟨lagResult, eq⟩ := this.checkControlReplicasLag_frame config arrivals
    rw [eq]
    exact ⟨rfl, rfl, rfl, rfl, rfl⟩
  | check | criticalSection | allEventsUpToLockProcessed | cleanupImminent =>
    cases stepped
    exact ⟨rfl, rfl, rfl, rfl, rfl⟩

/-- Inversion at a round of the general collector: it ran over orders of the load maps. -/
theorem throttleStep_collectGeneral_inv {readings : GeneralReadings}
    (stepped : throttleStep env config format this (.collectGeneral readings) = some next) :
    next = this.collectGeneralThrottleMetrics config readings := by
  have guarded : (if Visits readings.criticalLoadOrder this.context.criticalLoad ∧
      Visits readings.maxLoadOrder this.context.maxLoad
      then some (this.collectGeneralThrottleMetrics config readings) else none) = some next := stepped
  exact (Option.ite_some_none_eq_some.mp guarded).2.symm

/-- Inversion at the end of a hibernation: a timer was pending. -/
theorem throttleStep_leaveHibernation_inv (stepped : throttleStep env config format this .leaveHibernation = some next) :
    next = this.leaveHibernation := by
  have guarded : (if this.hibernationTimers > 0 then some this.leaveHibernation else none) = some next := stepped
  exact (Option.ite_some_none_eq_some.mp guarded).2.symm

/-- The throttle URL is empty, and the stored HTTP status code is `statusCode`. -/
def StaleHTTPStatus (statusCode : Int64) (this : ThrottleState) : Prop :=
  this.context.throttleHTTP = "" ∧ this.throttleHTTPStatusCode = statusCode

/-- With the throttle URL empty, only a `throttle-http` command changes the URL or the
stored status code: the HTTP collector no longer requests anything. -/
theorem staleHTTPStatus_step {statusCode : Int64} (stale : StaleHTTPStatus statusCode this)
    (notSet : ¬ event.SetsThrottleHTTP) (stepped : throttleStep env config format this event = some next) :
    StaleHTTPStatus statusCode next := by
  obtain ⟨cleared, stored⟩ := stale
  by_cases quiet : event.Quiet
  · obtain ⟨url, -, -, -, code⟩ := throttleStep_of_quiet quiet stepped
    exact ⟨url.trans cleared, code.trans stored⟩
  cases event with
  | command line =>
    cases stepped
    exact ⟨(applyServerCommand_throttleHTTP notSet).trans cleared, stored⟩
  | collectGeneral readings =>
    obtain rfl := throttleStep_collectGeneral_inv stepped
    obtain ⟨aborts, general, hibernateUntil, timers, rechecks, eq⟩ :=
      this.collectGeneralThrottleMetrics_frame config readings
    rw [eq]
    exact ⟨cleared, stored⟩
  | leaveHibernation =>
    obtain rfl := throttleStep_leaveHibernation_inv stepped
    exact ⟨cleared, stored⟩
  | collectHTTP answer =>
    cases stepped
    rw [collectThrottleHTTPStatus_of_cleared config this cleared]
    exact ⟨cleared, stored⟩
  | recheckCriticalLoad | collectLag | collectControlReplicas | check | criticalSection | allEventsUpToLockProcessed
  | cleanupImminent => exact absurd trivial quiet

/-- Only `no-throttle` ends the user's throttle. -/
theorem throttleCommandedByUser_step (commanded : this.context.throttleCommandedByUser > 0)
    (notReleased : ¬ event.ReleasesUserThrottle) (stepped : throttleStep env config format this event = some next) :
    next.context.throttleCommandedByUser > 0 := by
  by_cases quiet : event.Quiet
  · obtain ⟨-, same, -⟩ := throttleStep_of_quiet quiet stepped
    exact same ▸ commanded
  cases event with
  | command line =>
    cases stepped
    exact applyServerCommand_throttleCommandedByUser notReleased commanded
  | collectGeneral readings =>
    obtain rfl := throttleStep_collectGeneral_inv stepped
    obtain ⟨aborts, general, hibernateUntil, timers, rechecks, eq⟩ :=
      this.collectGeneralThrottleMetrics_frame config readings
    rw [eq]
    exact commanded
  | leaveHibernation =>
    obtain rfl := throttleStep_leaveHibernation_inv stepped
    exact commanded
  | collectHTTP answer =>
    cases stepped
    obtain ⟨statusCode, eq⟩ := this.collectThrottleHTTPStatus_frame config answer
    rw [eq]
    exact commanded
  | recheckCriticalLoad | collectLag | collectControlReplicas | check | criticalSection | allEventsUpToLockProcessed
  | cleanupImminent => exact absurd trivial quiet

/-- The user's throttle is on, and the general check has seen it or a hibernation throttles. -/
structure UserThrottleHolds (this : ThrottleState) : Prop where
  commanded : this.context.throttleCommandedByUser > 0
  throttles : this.throttleGeneralCheckResult.shouldThrottle = true ∨ this.hibernateUntil > 0

/-- A round of the general collector that sees the user's command makes the throttle hold,
when the hibernation it may start ends after the epoch. -/
theorem userThrottleHolds_collect {readings : GeneralReadings} (commanded : this.context.throttleCommandedByUser > 0)
    (clock : readings.now + config.criticalLoadHibernateSeconds * 1000000000 > 0) :
    UserThrottleHolds (this.collectGeneralThrottleMetrics config readings) := by
  by_cases hibernating : this.hibernateUntil > 0
  · rw [collectGeneralThrottleMetrics_of_hibernating config readings this hibernating]
    exact ⟨commanded, .inr hibernating⟩
  obtain ⟨aborts, general, hibernateUntil, timers, rechecks, eq⟩ := this.collectGeneralThrottleMetrics_frame config readings
  refine ⟨by rw [eq]; exact commanded, ?_⟩
  rcases this.collectGeneralThrottleMetrics_of_commanded config readings commanded hibernating with set | ⟨-, hibernates⟩
  · exact .inl set
  · exact .inr (hibernates ▸ clock)

/-- Until `no-throttle`, every event keeps the user's throttle holding. -/
theorem userThrottleHolds_step (held : UserThrottleHolds this) (notReleased : ¬ event.ReleasesUserThrottle)
    (stepped : throttleStep env config format this event = some next) : UserThrottleHolds next := by
  obtain ⟨commanded, throttles⟩ := held
  refine ⟨throttleCommandedByUser_step commanded notReleased stepped, ?_⟩
  by_cases quiet : event.Quiet
  · obtain ⟨-, -, general, hibernateUntil, -⟩ := throttleStep_of_quiet quiet stepped
    rw [general, hibernateUntil]
    exact throttles
  cases event with
  | command line =>
    cases stepped
    exact throttles
  | collectGeneral readings =>
    obtain rfl := throttleStep_collectGeneral_inv stepped
    by_cases hibernating : this.hibernateUntil > 0
    · rw [collectGeneralThrottleMetrics_of_hibernating config readings this hibernating]
      exact .inr hibernating
    -- a round that hibernates keeps the general result, which throttles since nothing hibernated before it
    rcases this.collectGeneralThrottleMetrics_of_commanded config readings commanded hibernating with set | ⟨kept, -⟩
    · exact .inl set
    · rw [kept]
      exact .inl (throttles.resolve_right hibernating)
  | leaveHibernation =>
    obtain rfl := throttleStep_leaveHibernation_inv stepped
    exact .inl rfl
  | collectHTTP answer =>
    cases stepped
    obtain ⟨statusCode, eq⟩ := this.collectThrottleHTTPStatus_frame config answer
    rw [eq]
    exact throttles
  | recheckCriticalLoad | collectLag | collectControlReplicas | check | criticalSection | allEventsUpToLockProcessed
  | cleanupImminent => exact absurd trivial quiet

end Steps

/-! ## The order `range` visits a load map in -/

/-- The variable cannot be read, or is read at its threshold: the loop over a load map
stops there. -/
def LoadHit (showStatusVariable : String → Except String Int64) (entry : Σ _ : String, Int64) : Prop :=
  match showStatusVariable entry.1 with
  | .error _ => True
  | .ok value => value ≥ entry.2

section Orders

variable (showStatusVariable : String → Except String Int64)

theorem loadMapHit_isSome_iff (order : List (Σ _ : String, Int64)) :
    (loadMapHit showStatusVariable order).isSome ↔ ∃ entry ∈ order, LoadHit showStatusVariable entry := by
  induction order with
  | nil => simp [loadMapHit_nil]
  | cons entry rest ih =>
    obtain ⟨variableName, threshold⟩ := entry
    cases reading : showStatusVariable variableName with
    | error err => simp [loadMapHit_cons, LoadHit, reading]
    | ok value =>
      by_cases atThreshold : value ≥ threshold
      · simp [loadMapHit_cons, LoadHit, reading, atThreshold]
      · simp [loadMapHit_cons, LoadHit, reading, atThreshold, ih]

/-- Whether the loop stops at some variable does not depend on the order it visits them in. -/
theorem loadMapHit_isSome_perm {order order' : List (Σ _ : String, Int64)} (perm : order.Perm order') :
    (loadMapHit showStatusVariable order).isSome = (loadMapHit showStatusVariable order').isSome := by
  apply Bool.eq_iff_iff.mpr
  rw [loadMapHit_isSome_iff, loadMapHit_isSome_iff]
  exact exists_congr fun entry => and_congr_left fun _ => perm.mem_iff

end Orders

namespace ThrottleState

section MaxLoadOrder

variable (config : ThrottleConfig) (readings : GeneralReadings) {order : List (Σ _ : String, Int64)}
  (perm : order.Perm readings.maxLoadOrder)

include perm

theorem generalThrottleReasons_maxLoadOrder (this : ThrottleState) : ∃ reason,
    this.generalThrottleReasons config { readings with maxLoadOrder := order } =
      { this.generalThrottleReasons config readings with
        throttleGeneralCheckResult := { (this.generalThrottleReasons config readings).throttleGeneralCheckResult with reason } } := by
  unfold generalThrottleReasons
  dsimp only
  split_ifs
  · exact ⟨_, rfl⟩
  · exact ⟨_, rfl⟩
  · exact ⟨_, rfl⟩
  -- with the throttle query's test split too: the max-load loop stops in both orders or in
  -- neither, with a reason of its own
  all_goals
    have same := loadMapHit_isSome_perm readings.showStatusVariable perm
    cases first : loadMapHit readings.showStatusVariable order with
    | none =>
      cases second : loadMapHit readings.showStatusVariable readings.maxLoadOrder with
      | none => exact ⟨_, rfl⟩
      | some hit => simp [first, second] at same
    | some hit =>
      cases second : loadMapHit readings.showStatusVariable readings.maxLoadOrder with
      | none => simp [first, second] at same
      | some hit' =>
        obtain ⟨variableName, threshold, reading⟩ := hit
        obtain ⟨variableName', threshold', reading'⟩ := hit'
        cases reading <;> cases reading' <;> exact ⟨_, rfl⟩

theorem onCriticalLoadMet_maxLoadOrder (variableName : String) (threshold value : Int64) (this : ThrottleState) :
    ∃ reason, this.onCriticalLoadMet config { readings with maxLoadOrder := order } variableName threshold value =
      { this.onCriticalLoadMet config readings variableName threshold value with
        throttleGeneralCheckResult :=
          { (this.onCriticalLoadMet config readings variableName threshold value).throttleGeneralCheckResult with
            reason } } := by
  unfold onCriticalLoadMet
  split_ifs
  · exact ⟨_, rfl⟩
  all_goals exact generalThrottleReasons_maxLoadOrder config readings perm _

/-- The order `range` visits `--max-load` in changes the reason a round gives at most: the
decision, its hint and everything else the round writes are the same. -/
theorem max_load_decision_ignores_order (this : ThrottleState) : ∃ reason,
    this.collectGeneralThrottleMetrics config { readings with maxLoadOrder := order } =
      { this.collectGeneralThrottleMetrics config readings with
        throttleGeneralCheckResult :=
          { (this.collectGeneralThrottleMetrics config readings).throttleGeneralCheckResult with reason } } := by
  by_cases hibernating : this.hibernateUntil > 0
  · rw [collectGeneralThrottleMetrics_of_hibernating config _ this hibernating,
      collectGeneralThrottleMetrics_of_hibernating config _ this hibernating]
    exact ⟨_, rfl⟩
  rw [collectGeneralThrottleMetrics_of_awake config _ this hibernating,
    collectGeneralThrottleMetrics_of_awake config _ this hibernating]
  -- the panic flag file and the critical load read nothing of the max-load order
  have filed : this.checkPanicFlagFile config { readings with maxLoadOrder := order } =
      this.checkPanicFlagFile config readings := rfl
  dsimp only
  rw [filed]
  generalize this.checkPanicFlagFile config readings = filed'
  split
  · exact ⟨_, rfl⟩
  · exact onCriticalLoadMet_maxLoadOrder config readings perm _ _ _ filed'
  · exact generalThrottleReasons_maxLoadOrder config readings perm filed'

end MaxLoadOrder

/-- A server with 30 threads running, which denies reading any other status variable, read
after the epoch; the theorems below give the orders the load maps are visited in. -/
def deniedStatusReadings : GeneralReadings where
  fileExists _ := false
  showStatusVariable variableName :=
    if variableName = "Threads_running" then .ok 30 else .error "Error 1227: Access denied"
  throttleQueryResult := 0
  now := 1700000000000000000
  criticalLoadOrder := []
  maxLoadOrder := []

/-- `sbtest1` migrated with `--max-load=Threads_running=25,Threads_connected=1000`. -/
def maxLoadContext : CommandContext :=
  { sbtestContext with maxLoad := ((∅ : LoadMap).insert "Threads_running" 25).insert "Threads_connected" 1000 }

/-- The server of `deniedStatusReadings`, with the max load visited in the order written. -/
def deniedMaxLoadReadings : GeneralReadings :=
  { deniedStatusReadings with maxLoadOrder := [⟨"Threads_running", 25⟩, ⟨"Threads_connected", 1000⟩] }

/-- The max load visited in the order written throttles on the threads running; visited the
other way round, the same decision names the denied variable. -/
theorem max_load_reversed_changes_reason :
    Visits deniedMaxLoadReadings.maxLoadOrder maxLoadContext.maxLoad ∧
      Visits [⟨"Threads_connected", 1000⟩, ⟨"Threads_running", 25⟩] maxLoadContext.maxLoad ∧
      ∃ reason, (ThrottleState.start maxLoadContext).collectGeneralThrottleMetrics defaultThrottleConfig
          { deniedMaxLoadReadings with maxLoadOrder := [⟨"Threads_connected", 1000⟩, ⟨"Threads_running", 25⟩] } =
        { (ThrottleState.start maxLoadContext).collectGeneralThrottleMetrics defaultThrottleConfig deniedMaxLoadReadings with
          throttleGeneralCheckResult :=
            { ((ThrottleState.start maxLoadContext).collectGeneralThrottleMetrics defaultThrottleConfig
                deniedMaxLoadReadings).throttleGeneralCheckResult with reason } } ∧
        reason = "Threads_connected Error 1227: Access denied" ∧
        ((ThrottleState.start maxLoadContext).collectGeneralThrottleMetrics defaultThrottleConfig
          deniedMaxLoadReadings).throttleGeneralCheckResult.reason = "max-load Threads_running=30 >= 25" := by
  have written : Visits deniedMaxLoadReadings.maxLoadOrder maxLoadContext.maxLoad := by decide
  have reversed : Visits [⟨"Threads_connected", 1000⟩, ⟨"Threads_running", 25⟩] maxLoadContext.maxLoad := by decide
  have perm : ([⟨"Threads_connected", 1000⟩, ⟨"Threads_running", 25⟩] : List (Σ _ : String, Int64)).Perm
      deniedMaxLoadReadings.maxLoadOrder := List.Perm.swap _ _ []
  obtain ⟨reason, eq⟩ :=
    max_load_decision_ignores_order defaultThrottleConfig deniedMaxLoadReadings perm (ThrottleState.start maxLoadContext)
  -- the reason the reversed order gives, read off both sides
  have named : reason = "Threads_connected Error 1227: Access denied" :=
    (congrArg (fun state => state.throttleGeneralCheckResult.reason) eq).symm.trans (by decide)
  exact ⟨written, reversed, reason, eq, named, by decide⟩

/-- With no panic flag file and the critical-load flags at their defaults, a variable of
`--critical-load` that cannot be read and another at its threshold make a round's outcome
depend on the order `range` visits the map in: visiting the first one first throttles with
its error, while visiting the other first aborts the migration. -/
theorem critical_load_abort_depends_on_order (config : ThrottleConfig) (readings : GeneralReadings)
    {this : ThrottleState} (noPanicFile : config.panicFlagFile = "")
    (noHibernation : config.criticalLoadHibernateSeconds = 0) (noInterval : config.criticalLoadIntervalMilliseconds = 0)
    (awake : ¬ this.hibernateUntil > 0) {unreadable met : Σ _ : String, Int64}
    (listedUnreadable : unreadable ∈ this.context.criticalLoad.entries) (listedMet : met ∈ this.context.criticalLoad.entries)
    {err : String} (fails : readings.showStatusVariable unreadable.1 = .error err) {value : Int64}
    (reads : readings.showStatusVariable met.1 = .ok value) (atThreshold : value ≥ met.2) :
    ∃ first second, Visits first this.context.criticalLoad ∧ Visits second this.context.criticalLoad ∧
      this.collectGeneralThrottleMetrics config { readings with criticalLoadOrder := first } =
        this.setThrottleGeneralCheckResult true (unreadable.1 ++ " " ++ err) .noThrottleReasonHint ∧
      (this.collectGeneralThrottleMetrics config { readings with criticalLoadOrder := second }).context.panicAbort =
        this.context.panicAbort ++ ["critical-load met: " ++ met.1 ++ "=" ++ toString value ++ ", >=" ++ toString met.2] := by
  obtain ⟨others, listedFirst⟩ := Multiset.exists_cons_of_mem listedUnreadable
  obtain ⟨others', listedSecond⟩ := Multiset.exists_cons_of_mem listedMet
  have filed (readings' : GeneralReadings) : this.checkPanicFlagFile config readings' = this := by
    simp [checkPanicFlagFile, noPanicFile]
  refine ⟨unreadable :: others.toList, met :: others'.toList, ?visitsFirst, ?visitsSecond, ?throttles, ?aborts⟩
  case visitsFirst => rw [Visits, listedFirst, ← Multiset.cons_coe, Multiset.coe_toList]
  case visitsSecond => rw [Visits, listedSecond, ← Multiset.cons_coe, Multiset.coe_toList]
  case throttles =>
    -- the loop stops at the variable it cannot read
    have hit : criticalLoadIsMet readings.showStatusVariable (unreadable :: others.toList) =
        some (unreadable.1, unreadable.2, .error err) := by
      simp [criticalLoadIsMet, loadMapHit_cons, fails]
    simp only [collectGeneralThrottleMetrics_of_awake config _ this awake, filed, hit]
  case aborts =>
    -- the loop stops at the variable over its threshold: no hibernation, and an abort at once
    have hit : criticalLoadIsMet readings.showStatusVariable (met :: others'.toList) = some (met.1, met.2, .ok value) := by
      simp [criticalLoadIsMet, loadMapHit_cons, reads, atThreshold]
    simp only [collectGeneralThrottleMetrics_of_awake config _ this awake, filed, hit]
    simp [onCriticalLoadMet, noHibernation, noInterval, generalThrottleReasons_context, panicAbort]


/-- `sbtest1` migrated with `--critical-load=Threads_running=25,Threads_connected=1000`. -/
def criticalLoadContext : CommandContext :=
  { sbtestContext with criticalLoad := ((∅ : LoadMap).insert "Threads_running" 25).insert "Threads_connected" 1000 }

/-- On the server of `deniedStatusReadings`, one order of the critical load throttles on the
denied variable, and the other aborts on the threads running. -/
theorem denied_variable_hides_critical_load :
    (⟨"Threads_connected", 1000⟩ : Σ _ : String, Int64) ∈ criticalLoadContext.criticalLoad.entries ∧
      (⟨"Threads_running", 25⟩ : Σ _ : String, Int64) ∈ criticalLoadContext.criticalLoad.entries ∧
      ∃ first second, Visits first criticalLoadContext.criticalLoad ∧ Visits second criticalLoadContext.criticalLoad ∧
        (ThrottleState.start criticalLoadContext).collectGeneralThrottleMetrics defaultThrottleConfig
            { deniedStatusReadings with criticalLoadOrder := first } =
          (ThrottleState.start criticalLoadContext).setThrottleGeneralCheckResult true
            ("Threads_connected" ++ " " ++ "Error 1227: Access denied") .noThrottleReasonHint ∧
        ((ThrottleState.start criticalLoadContext).collectGeneralThrottleMetrics defaultThrottleConfig
            { deniedStatusReadings with criticalLoadOrder := second }).context.panicAbort =
          (ThrottleState.start criticalLoadContext).context.panicAbort ++
            ["critical-load met: " ++ "Threads_running" ++ "=" ++ toString (30 : Int64) ++ ", >=" ++
              toString (25 : Int64)] := by
  have unreadable : (⟨"Threads_connected", 1000⟩ : Σ _ : String, Int64) ∈ criticalLoadContext.criticalLoad.entries := by
    decide
  have met : (⟨"Threads_running", 25⟩ : Σ _ : String, Int64) ∈ criticalLoadContext.criticalLoad.entries := by
    decide
  have awake : ¬ (ThrottleState.start criticalLoadContext).hibernateUntil > 0 := by decide
  exact ⟨unreadable, met, critical_load_abort_depends_on_order defaultThrottleConfig deniedStatusReadings rfl rfl rfl
    awake unreadable met rfl rfl (show (30 : Int64) ≥ 25 by decide)⟩

end ThrottleState

/-! ## Over every run -/

section Runs

variable {env : ServerEnvironment} {config : ThrottleConfig} {format : ThrottleFormat}

open ThrottleState

/-- Once the throttle URL is cleared while the status code stored from it is a failure, the
code stays and every check throttles on it until a `throttle-http` command sets a URL: no
other command, `no-throttle` included, and no collector clears it. After the next check
the row copy and the binlog writes wait, outside the cut-over's critical section. -/
theorem throttle_http_cleared_stays_throttled {start final : ThrottleState} {events : List ThrottleEvent}
    (cleared : start.context.throttleHTTP = "")
    (failed : start.throttleHTTPStatusCode ≠ 0 ∧ start.throttleHTTPStatusCode ≠ 200)
    (noURL : ∀ event ∈ events, ¬ event.SetsThrottleHTTP)
    (ran : Lib.run (throttleStep env config format) start events = some final) :
    final.throttleHTTPStatusCode = start.throttleHTTPStatusCode ∧ (final.shouldThrottle config format).1 = true ∧
      (final.throttlerFunction config format).IsThrottled.1 = decide (¬ final.inCutOverCriticalSectionFlag > 0) := by
  have stale : StaleHTTPStatus start.throttleHTTPStatusCode final :=
    Lib.run_invariant_of_forall (throttleStep env config format) (StaleHTTPStatus start.throttleHTTPStatusCode)
      (fun event => ¬ event.SetsThrottleHTTP) (fun _ _ _ notSet held stepped => staleHTTPStatus_step held notSet stepped)
      noURL ⟨cleared, rfl⟩ ran
  have throttles : (final.shouldThrottle config format).1 = true :=
    final.shouldThrottle_of_statusCode config format (stale.2 ▸ failed)
  exact ⟨stale.2, throttles, final.IsThrottled_throttlerFunction_of_shouldThrottle config format throttles⟩

/-- The URL answered 429 and has been cleared since; `no-throttle`, an answer of 200 to a
request the collector no longer makes, and a check follow. -/
theorem too_many_requests_outlives_cleared_url : ∃ final,
    Lib.run (throttleStep quietEnvironment defaultThrottleConfig ⟨fun _ => "", fun _ => ""⟩)
        { ThrottleState.start sbtestContext with throttleHTTPStatusCode := 429 }
        [.command "no-throttle", .collectHTTP (.ok 200), .check] = some final ∧
      final.throttleHTTPStatusCode = 429 ∧ (final.shouldThrottle defaultThrottleConfig ⟨fun _ => "", fun _ => ""⟩).1 = true ∧
      (final.throttlerFunction defaultThrottleConfig ⟨fun _ => "", fun _ => ""⟩).IsThrottled.1 = true := by
  obtain ⟨final, ran⟩ : ∃ final, Lib.run (throttleStep quietEnvironment defaultThrottleConfig ⟨fun _ => "", fun _ => ""⟩)
      { ThrottleState.start sbtestContext with throttleHTTPStatusCode := 429 }
      [.command "no-throttle", .collectHTTP (.ok 200), .check] = some final := ⟨_, rfl⟩
  have noURL : ∀ event ∈ [ThrottleEvent.command "no-throttle", .collectHTTP (.ok 200), .check], ¬ event.SetsThrottleHTTP := by
    simp only [List.mem_cons, List.not_mem_nil, or_false, forall_eq_or_imp, forall_eq, ThrottleEvent.SetsThrottleHTTP]
    exact ⟨by decide, not_false, not_false⟩
  obtain ⟨code, throttles, waits⟩ := throttle_http_cleared_stays_throttled rfl ⟨by decide, by decide⟩ noURL ran
  refine ⟨final, ran, code, throttles, waits.trans ?_⟩
  cases ran
  rfl

/-- From a `throttle` command on, once a round of the general collector has seen it, every
check throttles until `no-throttle`, whatever the other goroutines, the critical load and
the other commands do: a hibernation throttles while it lasts and ends in a throttling
result. A hibernation the round starts ends after the epoch, as every real clock has it. -/
theorem user_throttle_holds {start final : ThrottleState} {before after : List ThrottleEvent}
    {readings : GeneralReadings} (commanded : start.context.throttleCommandedByUser > 0)
    (clock : readings.now + config.criticalLoadHibernateSeconds * 1000000000 > 0)
    (kept : ∀ event ∈ before ++ ThrottleEvent.collectGeneral readings :: after, ¬ event.ReleasesUserThrottle)
    (ran : Lib.run (throttleStep env config format) start (before ++ ThrottleEvent.collectGeneral readings :: after) =
      some final) :
    (final.shouldThrottle config format).1 = true ∧
      (final.throttlerFunction config format).IsThrottled.1 = decide (¬ final.inCutOverCriticalSectionFlag > 0) := by
  -- the command stays up to the round, the round makes the throttle hold, and every later event keeps it
  rw [Lib.run_append] at ran
  obtain ⟨middle, early, ran⟩ := Option.bind_eq_some_iff.mp ran
  rw [Lib.run_cons] at ran
  obtain ⟨collected, seen, ran⟩ := Option.bind_eq_some_iff.mp ran
  have stillCommanded : middle.context.throttleCommandedByUser > 0 :=
    Lib.run_invariant_of_forall (throttleStep env config format) (fun state => state.context.throttleCommandedByUser > 0)
      (fun event => ¬ event.ReleasesUserThrottle)
      (fun _ _ _ notReleased held stepped => throttleCommandedByUser_step held notReleased stepped)
      (fun event member => kept event (List.mem_append_left _ member)) commanded early
  have holds : UserThrottleHolds collected := by
    obtain rfl := throttleStep_collectGeneral_inv seen
    exact userThrottleHolds_collect stillCommanded clock
  have finalHolds : UserThrottleHolds final :=
    Lib.run_invariant_of_forall (throttleStep env config format) UserThrottleHolds
      (fun event => ¬ event.ReleasesUserThrottle)
      (fun _ _ _ notReleased held stepped => userThrottleHolds_step held notReleased stepped)
      (fun event member => kept event (List.mem_append_right _ (List.mem_cons_of_mem _ member))) holds ran
  have throttles := final.shouldThrottle_of_general config format finalHolds.throttles
  exact ⟨throttles, final.IsThrottled_throttlerFunction_of_shouldThrottle config format throttles⟩

/-- `throttle` on `sbtest1`, a new lag threshold, a round of the general collector on an
idle server, a cleared throttle URL, a lag reading and a check. -/
theorem throttle_command_outlasts_other_events : ∃ final,
    Lib.run (throttleStep quietEnvironment defaultThrottleConfig ⟨fun _ => "", fun _ => ""⟩)
        { ThrottleState.start sbtestContext with
          context := (applyServerCommand quietEnvironment sbtestContext "throttle").2.2 }
        ([.command "max-lag-millis=2000"] ++
          .collectGeneral ⟨fun _ => false, fun _ => .ok 0, 0, 1700000000000000000, [], []⟩ ::
            [.command "throttle-http=", .collectLag (.ok 0), .check]) = some final ∧
      (final.shouldThrottle defaultThrottleConfig ⟨fun _ => "", fun _ => ""⟩).1 = true ∧
      (final.throttlerFunction defaultThrottleConfig ⟨fun _ => "", fun _ => ""⟩).IsThrottled.1 = true := by
  obtain ⟨final, ran⟩ : ∃ final, Lib.run (throttleStep quietEnvironment defaultThrottleConfig ⟨fun _ => "", fun _ => ""⟩)
      { ThrottleState.start sbtestContext with
        context := (applyServerCommand quietEnvironment sbtestContext "throttle").2.2 }
      ([.command "max-lag-millis=2000"] ++
        .collectGeneral ⟨fun _ => false, fun _ => .ok 0, 0, 1700000000000000000, [], []⟩ ::
          [.command "throttle-http=", .collectLag (.ok 0), .check]) = some final := ⟨_, rfl⟩
  have kept : ∀ event ∈ [ThrottleEvent.command "max-lag-millis=2000"] ++
      .collectGeneral ⟨fun _ => false, fun _ => .ok 0, 0, 1700000000000000000, [], []⟩ ::
        [.command "throttle-http=", .collectLag (.ok 0), .check], ¬ event.ReleasesUserThrottle := by
    simp only [List.cons_append, List.nil_append, List.mem_cons, List.not_mem_nil, or_false, forall_eq_or_imp,
      forall_eq, ThrottleEvent.ReleasesUserThrottle]
    exact ⟨by decide, not_false, by decide, not_false, not_false⟩
  obtain ⟨throttles, waits⟩ := user_throttle_holds (by decide) (by decide) kept ran
  refine ⟨final, ran, throttles, waits.trans ?_⟩
  cases ran
  rfl

end Runs

end GhOst.Logic
