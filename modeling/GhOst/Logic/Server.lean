import GhOst.Base.LoadMap
import GhOst.Go.Strconv
import GhOst.Go.Strings
import GhOst.Mysql.InstanceKey

/-! `Server.applyServerCommand`, the interactive commands a running migration accepts on
its socket, over the fields of `MigrationContext` they read and set.

A command that fails leaves the context as it was: every parser runs before its
assignment, and the load maps and the replica list are parsed into fresh values that are
dropped on error. Only `panic` changes the context when it returns its error, by sending
that error on `PanicAbort`. A `?` argument asks for a value rather than setting it, but
only the commands that test for it treat it so: `postpone-cut-over-flag-file=?` names a
flag file `?`, and the commands that take a table name accept `?` when the migrated
table is named `?`.

What the commands print on the writer is left out, as are the hooks, the CPU profiler,
the file system and the texts of `strconv`'s errors, which come in through
`ServerEnvironment`. -/

namespace GhOst.Logic

open GhOst.Base GhOst.Mysql

/-- `PrintStatusRule`. -/
inductive PrintStatusRule where
  | noPrintStatus
  | heuristicPrintStatus
  | forcePrintStatus
  | forcePrintStatusOnly
  | forcePrintStatusAndHint
  deriving DecidableEq, Repr

/-- The fields of `MigrationContext` that the interactive commands read or set.
`panicAbort` holds the errors sent on the `PanicAbort` channel, oldest first. -/
structure CommandContext where
  originalTableName : String
  chunkSize : Int64
  dmlBatchSize : Int64
  maxLagMillisecondsThrottleThreshold : Int64
  niceRatio : Float
  maxLoad : LoadMap
  criticalLoad : LoadMap
  throttleQuery : String
  throttleHTTP : String
  throttleControlReplicaKeys : InstanceKeyMap
  throttleCommandedByUser : Int64
  postponeCutOverFlagFile : String
  forceNamedCutOverCommand : Bool
  forceNamedPanicCommand : Bool
  isPostponingCutOver : Int64
  userCommandedUnpostponeFlag : Int64
  panicAbort : List String

/-- What `applyServerCommand` takes from outside the migration context: the
`gh-ost-on-interactive-command` hook, `runCPUProfile`, the file system, and the parts of
`strconv` the model leaves abstract (`ParseFloat`, and the text of the error `Atoi`
returns; which texts `Atoi` accepts is `Go.Strconv.Atoi`). -/
structure ServerEnvironment where
  onInteractiveCommand : String → Option String
  runCPUProfile : String → Except String String
  parseFloat : String → Except String Float
  atoiError : String → String
  fileExists : String → Bool
  touchFile : String → Option String

/-! ## The setters of `MigrationContext` -/

/-- `MaxEventsBatchSize`. -/
def maxEventsBatchSize : Int64 := 1000

/-- The bounds the setters impose: `if v < low { v = low }; if v > high { v = high }`. -/
def clamp {α : Type} [LT α] [DecidableLT α] (low high value : α) : α :=
  let value := if value < low then low else value
  if value > high then high else value

namespace CommandContext

/-- `SetChunkSize`. -/
def setChunkSize (this : CommandContext) (chunkSize : Int64) : CommandContext :=
  { this with chunkSize := clamp 10 100000 chunkSize }

/-- `SetDMLBatchSize`. -/
def setDMLBatchSize (this : CommandContext) (batchSize : Int64) : CommandContext :=
  { this with dmlBatchSize := clamp 1 maxEventsBatchSize batchSize }

/-- `SetMaxLagMillisecondsThrottleThreshold`: a lower bound only. -/
def setMaxLagMillisecondsThrottleThreshold (this : CommandContext) (maxLagMillisecondsThrottleThreshold : Int64) :
    CommandContext :=
  { this with
    maxLagMillisecondsThrottleThreshold :=
      if maxLagMillisecondsThrottleThreshold < 100 then 100 else maxLagMillisecondsThrottleThreshold }

/-- `SetNiceRatio`. -/
def setNiceRatio (this : CommandContext) (newRatio : Float) : CommandContext :=
  { this with niceRatio := clamp 0.0 100.0 newRatio }

/-- `SetThrottleQuery`. -/
def setThrottleQuery (this : CommandContext) (newQuery : String) : CommandContext :=
  { this with throttleQuery := newQuery }

/-- `SetThrottleHTTP`. -/
def setThrottleHTTP (this : CommandContext) (throttleHTTP : String) : CommandContext :=
  { this with throttleHTTP := throttleHTTP }

/-- `ReadMaxLoad` and `ReadCriticalLoad`: parse a load map and assign it with `set`, only
when it parses. -/
def readLoadMap (set : CommandContext → LoadMap → CommandContext) (this : CommandContext) (loadList : String) :
    Except String CommandContext :=
  match LoadMap.parseLoadMap loadList with
  | (_, some err) => .error err
  | (loadMap, none) => .ok (set this loadMap)

/-- `ReadMaxLoad`. -/
def readMaxLoad (this : CommandContext) (maxLoadList : String) : Except String CommandContext :=
  readLoadMap (fun context loadMap => { context with maxLoad := loadMap }) this maxLoadList

/-- `ReadCriticalLoad`. -/
def readCriticalLoad (this : CommandContext) (criticalLoadList : String) : Except String CommandContext :=
  readLoadMap (fun context loadMap => { context with criticalLoad := loadMap }) this criticalLoadList

/-- `ReadThrottleControlReplicaKeys`: the keys are read into a new map, assigned only when
the whole list reads. -/
def readThrottleControlReplicaKeys (this : CommandContext) (throttleControlReplicas : String) :
    Except String CommandContext :=
  match (∅ : InstanceKeyMap).readCommaDelimitedList throttleControlReplicas with
  | (_, some err) => .error err
  | (keys, none) => .ok { this with throttleControlReplicaKeys := keys }

end CommandContext

/-! ## The commands -/

/-- The cases of the `switch` in `applyServerCommand`. -/
inductive ServerCommand where
  | help
  | sup
  | status
  | cpuProfile
  | coordinates
  | applier
  | inspector
  | chunkSize
  | dmlBatchSize
  | maxLagMillis
  | replicationLagQuery
  | niceRatio
  | maxLoad
  | criticalLoad
  | throttleQuery
  | throttleHTTP
  | throttleControlReplicas
  | throttle
  | noThrottle
  | postponeCutOverFlagFile
  | unpostpone
  | panic
  deriving DecidableEq, Repr

namespace ServerCommand

/-- The labels of each `case`. -/
def labels : ServerCommand → List String
  | help => ["help"]
  | sup => ["sup"]
  | status => ["info", "status"]
  | cpuProfile => ["cpu-profile"]
  | coordinates => ["coordinates"]
  | applier => ["applier"]
  | inspector => ["inspector"]
  | chunkSize => ["chunk-size"]
  | dmlBatchSize => ["dml-batch-size"]
  | maxLagMillis => ["max-lag-millis"]
  | replicationLagQuery => ["replication-lag-query"]
  | niceRatio => ["nice-ratio"]
  | maxLoad => ["max-load"]
  | criticalLoad => ["critical-load"]
  | throttleQuery => ["throttle-query"]
  | throttleHTTP => ["throttle-http"]
  | throttleControlReplicas => ["throttle-control-replicas"]
  | throttle => ["throttle", "pause", "suspend"]
  | noThrottle => ["no-throttle", "unthrottle", "resume", "continue"]
  | postponeCutOverFlagFile => ["postpone-cut-over-flag-file"]
  | unpostpone => ["unpostpone", "no-postpone", "cut-over"]
  | panic => ["panic"]

/-- The cases in the order of the source. -/
def all : List ServerCommand :=
  [help, sup, status, cpuProfile, coordinates, applier, inspector, chunkSize, dmlBatchSize, maxLagMillis,
    replicationLagQuery, niceRatio, maxLoad, criticalLoad, throttleQuery, throttleHTTP, throttleControlReplicas,
    throttle, noThrottle, postponeCutOverFlagFile, unpostpone, panic]

/-- The `case` a command selects, the first whose labels hold it; `none` is `default`. -/
def ofName (command : String) : Option ServerCommand :=
  all.find? fun c => c.labels.contains command

end ServerCommand

/-- `strings.SplitN(command, "=", 2)` and the trimming after it: the command, and the
argument, unquoted when `strconv.Unquote` accepts it; `""` when there is no `=`. -/
def commandAndArg (line : String) : String × String :=
  match line.toList.span (· != '=') with
  | (command, []) => (String.ofList (Go.Strings.trimSpace command), "")
  | (command, _ :: rest) =>
    let arg := String.ofList (Go.Strings.trimSpace rest)
    (String.ofList (Go.Strings.trimSpace command), (Go.Strconv.Unquote arg).getD arg)

/-- What a `case` returns: the print rule, the error, and the context after it. -/
abbrev CommandResult := PrintStatusRule × Option String × CommandContext

/-- The `case` of a command that sets a value parsed from its argument with `read`, or
prints the value for `?`. -/
def readCase (read : CommandContext → String → Except String CommandContext) (this : CommandContext)
    (arg : String) : CommandResult :=
  if arg = "?" then (.noPrintStatus, none, this)
  else
    match read this arg with
    | .error err => (.noPrintStatus, some err, this)
    | .ok next => (.forcePrintStatusAndHint, none, next)

/-- `strconv.Atoi` followed by a setter. -/
def atoiThen (env : ServerEnvironment) (set : CommandContext → Int64 → CommandContext)
    (this : CommandContext) (arg : String) : Except String CommandContext :=
  match Go.Strconv.Atoi arg with
  | some value => .ok (set this value)
  | none => .error (env.atoiError arg)

/-- The courtesy check of the commands that may name the migrated table. -/
def tableMismatch (name : String) (this : CommandContext) (arg : String) : Option String :=
  if arg ≠ "" ∧ arg ≠ this.originalTableName then
    some ("User commanded '" ++ name ++ "' on " ++ arg ++ ", but migrated table is " ++ this.originalTableName ++
      "; ignoring request.")
  else none

/-- `createPostponeCutOverFlagFile`. -/
def createPostponeCutOverFlagFile (env : ServerEnvironment) (filePath : String) : Option String :=
  if env.fileExists filePath then none
  else (env.touchFile filePath).map fun err =>
    "Failed to create postpone cut-over flag file " ++ filePath ++ ": " ++ err

/-- The error `panic` sends on `PanicAbort` and returns. -/
def panicError : String :=
  "User commanded 'panic'. The migration will be aborted without cleanup. Please drop the gh-ost tables before trying again."

/-- One `case` of the `switch`. -/
def runCommand (env : ServerEnvironment) (this : CommandContext) (arg : String) : ServerCommand → CommandResult
  | .help => (.noPrintStatus, none, this)
  | .sup => (.forcePrintStatusOnly, none, this)
  | .status => (.forcePrintStatusAndHint, none, this)
  | .cpuProfile =>
    match env.runCPUProfile arg with
    | .ok _ => (.noPrintStatus, none, this)
    | .error err => (.noPrintStatus, some err, this)
  | .coordinates =>
    if arg = "?" ∨ arg = "" then (.noPrintStatus, none, this)
    else (.noPrintStatus, some "coordinates are read-only", this)
  | .applier => (.noPrintStatus, none, this)
  | .inspector => (.noPrintStatus, none, this)
  | .chunkSize => readCase (atoiThen env CommandContext.setChunkSize) this arg
  | .dmlBatchSize => readCase (atoiThen env CommandContext.setDMLBatchSize) this arg
  | .maxLagMillis => readCase (atoiThen env CommandContext.setMaxLagMillisecondsThrottleThreshold) this arg
  | .replicationLagQuery =>
    (.noPrintStatus,
      some "replication-lag-query is deprecated. gh-ost uses an internal, subsecond resolution query", this)
  | .niceRatio => readCase (fun context arg => (env.parseFloat arg).map context.setNiceRatio) this arg
  | .maxLoad => readCase CommandContext.readMaxLoad this arg
  | .criticalLoad => readCase CommandContext.readCriticalLoad this arg
  | .throttleQuery => readCase (fun context arg => .ok (context.setThrottleQuery arg)) this arg
  | .throttleHTTP => readCase (fun context arg => .ok (context.setThrottleHTTP arg)) this arg
  | .throttleControlReplicas => readCase CommandContext.readThrottleControlReplicaKeys this arg
  | .throttle =>
    match tableMismatch "throttle" this arg with
    | some err => (.noPrintStatus, some err, this)
    | none => (.forcePrintStatusAndHint, none, { this with throttleCommandedByUser := 1 })
  | .noThrottle =>
    match tableMismatch "no-throttle" this arg with
    | some err => (.noPrintStatus, some err, this)
    | none => (.forcePrintStatusAndHint, none, { this with throttleCommandedByUser := 0 })
  | .postponeCutOverFlagFile =>
    if arg = "" then
      (.noPrintStatus, some "User commanded 'postpone-cut-over-flag-file' without specifying file path", this)
    else
      match createPostponeCutOverFlagFile env arg with
      | some err => (.noPrintStatus, some err, this)
      | none => (.forcePrintStatusAndHint, none, { this with postponeCutOverFlagFile := arg })
  | .unpostpone =>
    if arg = "" ∧ this.forceNamedCutOverCommand then
      (.noPrintStatus,
        some "User commanded 'unpostpone' without specifying table name, but --force-named-cut-over is set", this)
    else
      match tableMismatch "unpostpone" this arg with
      | some err => (.noPrintStatus, some err, this)
      | none =>
        if this.isPostponingCutOver > 0 then
          (.forcePrintStatusAndHint, none, { this with userCommandedUnpostponeFlag := 1 })
        else (.noPrintStatus, none, this)
  | .panic =>
    if arg = "" ∧ this.forceNamedPanicCommand then
      (.noPrintStatus,
        some "User commanded 'panic' without specifying table name, but --force-named-panic is set", this)
    else
      match tableMismatch "panic" this arg with
      | some err => (.noPrintStatus, some err, this)
      | none => (.noPrintStatus, some panicError, { this with panicAbort := this.panicAbort ++ [panicError] })

theorem runCommand_cpuProfile (env : ServerEnvironment) (this : CommandContext) (arg : String) :
    runCommand env this arg .cpuProfile =
      match env.runCPUProfile arg with
      | .ok _ => (.noPrintStatus, none, this)
      | .error err => (.noPrintStatus, some err, this) := rfl

theorem runCommand_coordinates (env : ServerEnvironment) (this : CommandContext) (arg : String) :
    runCommand env this arg .coordinates =
      if arg = "?" ∨ arg = "" then (.noPrintStatus, none, this)
      else (.noPrintStatus, some "coordinates are read-only", this) := rfl

theorem runCommand_throttle (env : ServerEnvironment) (this : CommandContext) (arg : String) :
    runCommand env this arg .throttle =
      match tableMismatch "throttle" this arg with
      | some err => (.noPrintStatus, some err, this)
      | none => (.forcePrintStatusAndHint, none, { this with throttleCommandedByUser := 1 }) := rfl

theorem runCommand_noThrottle (env : ServerEnvironment) (this : CommandContext) (arg : String) :
    runCommand env this arg .noThrottle =
      match tableMismatch "no-throttle" this arg with
      | some err => (.noPrintStatus, some err, this)
      | none => (.forcePrintStatusAndHint, none, { this with throttleCommandedByUser := 0 }) := rfl

theorem runCommand_postponeCutOverFlagFile (env : ServerEnvironment) (this : CommandContext) (arg : String) :
    runCommand env this arg .postponeCutOverFlagFile =
      if arg = "" then
        (.noPrintStatus, some "User commanded 'postpone-cut-over-flag-file' without specifying file path", this)
      else
        match createPostponeCutOverFlagFile env arg with
        | some err => (.noPrintStatus, some err, this)
        | none => (.forcePrintStatusAndHint, none, { this with postponeCutOverFlagFile := arg }) := rfl

theorem runCommand_unpostpone (env : ServerEnvironment) (this : CommandContext) (arg : String) :
    runCommand env this arg .unpostpone =
      if arg = "" ∧ this.forceNamedCutOverCommand then
        (.noPrintStatus,
          some "User commanded 'unpostpone' without specifying table name, but --force-named-cut-over is set", this)
      else
        match tableMismatch "unpostpone" this arg with
        | some err => (.noPrintStatus, some err, this)
        | none =>
          if this.isPostponingCutOver > 0 then
            (.forcePrintStatusAndHint, none, { this with userCommandedUnpostponeFlag := 1 })
          else (.noPrintStatus, none, this) := rfl

theorem runCommand_panic (env : ServerEnvironment) (this : CommandContext) (arg : String) :
    runCommand env this arg .panic =
      if arg = "" ∧ this.forceNamedPanicCommand then
        (.noPrintStatus,
          some "User commanded 'panic' without specifying table name, but --force-named-panic is set", this)
      else
        match tableMismatch "panic" this arg with
        | some err => (.noPrintStatus, some err, this)
        | none => (.noPrintStatus, some panicError, { this with panicAbort := this.panicAbort ++ [panicError] }) := rfl

/-- `applyServerCommand`: the hook runs first, on the trimmed command, and its error ends
the command; a command no `case` names is unknown. -/
def applyServerCommand (env : ServerEnvironment) (this : CommandContext) (line : String) : CommandResult :=
  let (command, arg) := commandAndArg line
  match env.onInteractiveCommand command with
  | some err => (.noPrintStatus, some err, this)
  | none =>
    match ServerCommand.ofName command with
    | some c => runCommand env this arg c
    | none => (.noPrintStatus, some ("Unknown command: " ++ command), this)

/-- The context after the server has applied command lines one after another. `Serve`
runs each connection's command on a goroutine of its own; every command writes at most
one field, computed from its argument and from fields no command writes, so concurrent
commands land as if applied in some order. -/
def applyServerCommands (env : ServerEnvironment) (this : CommandContext) (lines : List String) : CommandContext :=
  lines.foldl (fun context line => (applyServerCommand env context line).2.2) this

example : commandAndArg " max-load = \"Threads_running=10\" " = ("max-load", "Threads_running=10") := by rfl

/-! ## What one command does to the context -/

/-- A command line either fails before its `case`, in the hook or as unknown, or runs the
`case` its command names. -/
theorem applyServerCommand_cases (env : ServerEnvironment) (this : CommandContext) (line : String) :
    (∃ err, applyServerCommand env this line = (.noPrintStatus, some err, this)) ∨
    ∃ c, ServerCommand.ofName (commandAndArg line).1 = some c ∧
      applyServerCommand env this line = runCommand env this (commandAndArg line).2 c := by
  rcases split : commandAndArg line with ⟨command, arg⟩
  simp only [applyServerCommand, split]
  cases env.onInteractiveCommand command with
  | some err => exact .inl ⟨err, rfl⟩
  | none =>
    cases ServerCommand.ofName command with
    | some c => exact .inr ⟨c, rfl, rfl⟩
    | none => exact .inl ⟨_, rfl⟩

/-- A parse-and-set `case` keeps the context, or succeeds on an argument other than `?`
with the context its parser returned. -/
theorem readCase_cases (read : CommandContext → String → Except String CommandContext) (this : CommandContext)
    (arg : String) :
    (readCase read this arg).2.2 = this ∨
      (arg ≠ "?" ∧ (readCase read this arg).2.1 = none ∧ read this arg = .ok (readCase read this arg).2.2) := by
  by_cases query : arg = "?"
  · simp [readCase, query]
  · cases parsed : read this arg with
    | error err => simp [readCase, query, parsed]
    | ok next => simp [readCase, query, parsed]

theorem readCase_of_error {read : CommandContext → String → Except String CommandContext} {this : CommandContext}
    {arg err : String} (failed : (readCase read this arg).2.1 = some err) : (readCase read this arg).2.2 = this := by
  rcases readCase_cases read this arg with unchanged | ⟨-, succeeded, -⟩
  · exact unchanged
  · rw [succeeded] at failed
    cases failed

theorem readCase_query (read : CommandContext → String → Except String CommandContext) (this : CommandContext) :
    (readCase read this "?").2.2 = this := by
  rcases readCase_cases read this "?" with unchanged | ⟨notQuery, -⟩
  · exact unchanged
  · exact absurd rfl notQuery

/-- What holds of the context and of every context the parser can return holds after a
parse-and-set `case`. -/
theorem readCase_preserves (holds : CommandContext → Prop) {read : CommandContext → String → Except String CommandContext}
    {this : CommandContext} {arg : String} (start : holds this) (kept : ∀ next, read this arg = .ok next → holds next) :
    holds (readCase read this arg).2.2 := by
  rcases readCase_cases read this arg with unchanged | ⟨-, -, parsed⟩
  · rw [unchanged]
    exact start
  · exact kept _ parsed

theorem tableMismatch_eq_none_iff (name : String) (this : CommandContext) (arg : String) :
    tableMismatch name this arg = none ↔ arg = "" ∨ arg = this.originalTableName := by
  by_cases empty : arg = "" <;> by_cases same : arg = this.originalTableName <;> simp [tableMismatch, empty, same]

/-- A command that takes a table name refuses `?` unless the migrated table is named `?`. -/
theorem tableMismatch_query (name : String) {this : CommandContext} (named : this.originalTableName ≠ "?") :
    ∃ err, tableMismatch name this "?" = some err := by
  apply Option.ne_none_iff_exists'.mp
  rw [ne_eq, tableMismatch_eq_none_iff]
  rintro (empty | same)
  · exact absurd empty (by decide)
  · exact named same.symm

/-- A `case` that returns an error leaves the context as it was, but for `panic`, which
sends its error on `PanicAbort`. -/
theorem runCommand_of_error {env : ServerEnvironment} {this : CommandContext} {arg err : String}
    {c : ServerCommand} (failed : (runCommand env this arg c).2.1 = some err) :
    (runCommand env this arg c).2.2 = this ∨
      (c = .panic ∧ err = panicError ∧
        (runCommand env this arg c).2.2 = { this with panicAbort := this.panicAbort ++ [panicError] }) := by
  cases c with
  | chunkSize | dmlBatchSize | maxLagMillis | niceRatio | maxLoad | criticalLoad | throttleQuery | throttleHTTP
  | throttleControlReplicas => exact .inl (readCase_of_error failed)
  | help | sup | status | applier | inspector | replicationLagQuery => exact .inl rfl
  | cpuProfile | coordinates =>
    left
    simp only [runCommand_cpuProfile, runCommand_coordinates]
    split <;> rfl
  | throttle | noThrottle =>
    left
    simp only [runCommand_throttle, runCommand_noThrottle] at failed ⊢
    split at failed
    · rfl
    · cases failed
  | postponeCutOverFlagFile =>
    left
    simp only [runCommand_postponeCutOverFlagFile] at failed ⊢
    split at failed
    · rename_i empty
      simp only [if_pos empty]
    · rename_i named
      split at failed
      · simp only [if_neg named]
      · cases failed
  | unpostpone =>
    left
    simp only [runCommand_unpostpone] at failed ⊢
    split at failed
    · rename_i unnamed
      simp only [if_pos unnamed]
    · rename_i allowed
      split at failed
      · simp only [if_neg allowed]
      · split at failed <;> cases failed
  | panic =>
    simp only [runCommand_panic] at failed ⊢
    split at failed
    · rename_i unnamed
      exact .inl (by simp only [if_pos unnamed])
    · rename_i allowed
      split at failed
      · exact .inl (by simp only [if_neg allowed])
      · -- the one error that comes with a change: the abort sent on the channel
        cases failed
        exact .inr ⟨trivial, rfl, by simp only [if_neg allowed]⟩

/-- A `?` argument leaves the context as it was, but for `postpone-cut-over-flag-file`, which
does not test for it, and for the commands that take a table name when the migrated table
is named `?`. -/
theorem runCommand_query (env : ServerEnvironment) (this : CommandContext) (c : ServerCommand) :
    (runCommand env this "?" c).2.2 = this ∨ c = .postponeCutOverFlagFile ∨ this.originalTableName = "?" := by
  by_cases named : this.originalTableName = "?"
  · exact .inr (.inr named)
  cases c with
  -- a query only reads: the setters' cases return at the `?`, the read-only commands always
  | chunkSize | dmlBatchSize | maxLagMillis | niceRatio | maxLoad | criticalLoad | throttleQuery | throttleHTTP
  | throttleControlReplicas | help | sup | status | applier | inspector | replicationLagQuery => exact .inl rfl
  | cpuProfile | coordinates =>
    left
    simp only [runCommand_cpuProfile, runCommand_coordinates]
    split <;> rfl
  | postponeCutOverFlagFile => exact .inr (.inl rfl)
  | throttle =>
    obtain ⟨err, mismatch⟩ := tableMismatch_query "throttle" named
    exact .inl (by simp only [runCommand_throttle, mismatch])
  | noThrottle =>
    obtain ⟨err, mismatch⟩ := tableMismatch_query "no-throttle" named
    exact .inl (by simp only [runCommand_noThrottle, mismatch])
  | unpostpone =>
    obtain ⟨err, mismatch⟩ := tableMismatch_query "unpostpone" named
    have named : ¬ ("?" = "" ∧ this.forceNamedCutOverCommand = true) := fun unnamed => absurd unnamed.1 (by decide)
    exact .inl (by simp only [runCommand_unpostpone, if_neg named, mismatch])
  | panic =>
    obtain ⟨err, mismatch⟩ := tableMismatch_query "panic" named
    have named : ¬ ("?" = "" ∧ this.forceNamedPanicCommand = true) := fun unnamed => absurd unnamed.1 (by decide)
    exact .inl (by simp only [runCommand_panic, if_neg named, mismatch])

/-- A command line that returns an error leaves the context as it was, but for `panic`. -/
theorem applyServerCommand_of_error {env : ServerEnvironment} {this : CommandContext} {line err : String}
    (failed : (applyServerCommand env this line).2.1 = some err) :
    (applyServerCommand env this line).2.2 = this ∨
      (ServerCommand.ofName (commandAndArg line).1 = some .panic ∧ err = panicError ∧
        (applyServerCommand env this line).2.2 = { this with panicAbort := this.panicAbort ++ [panicError] }) := by
  rcases applyServerCommand_cases env this line with ⟨hookErr, refused⟩ | ⟨c, named, ran⟩
  · exact .inl (by rw [refused])
  · rw [ran] at failed ⊢
    rcases runCommand_of_error failed with unchanged | ⟨rfl, isPanic, aborted⟩
    · exact .inl unchanged
    · exact .inr ⟨named, isPanic, aborted⟩

/-- A command line whose argument is `?` leaves the context as it was, but for
`postpone-cut-over-flag-file` and a migrated table named `?`. -/
theorem applyServerCommand_query {env : ServerEnvironment} {this : CommandContext} {line : String}
    (query : (commandAndArg line).2 = "?") :
    (applyServerCommand env this line).2.2 = this ∨
      ServerCommand.ofName (commandAndArg line).1 = some .postponeCutOverFlagFile ∨ this.originalTableName = "?" := by
  rcases applyServerCommand_cases env this line with ⟨hookErr, refused⟩ | ⟨c, named, ran⟩
  · exact .inl (by rw [refused])
  · rw [ran, query]
    rcases runCommand_query env this c with unchanged | rfl | tableNamed
    · exact .inl unchanged
    · exact .inr (.inl named)
    · exact .inr (.inr tableNamed)

/-- `postpone-cut-over-flag-file=?` postpones the cut-over on a flag file named `?`. -/
theorem applyServerCommand_postpone_query {env : ServerEnvironment} {this : CommandContext}
    (hook : env.onInteractiveCommand "postpone-cut-over-flag-file" = none)
    (created : createPostponeCutOverFlagFile env "?" = none) :
    applyServerCommand env this "postpone-cut-over-flag-file=?" =
      (.forcePrintStatusAndHint, none, { this with postponeCutOverFlagFile := "?" }) := by
  have split : commandAndArg "postpone-cut-over-flag-file=?" = ("postpone-cut-over-flag-file", "?") := by rfl
  have named : ServerCommand.ofName "postpone-cut-over-flag-file" = some .postponeCutOverFlagFile := by rfl
  have notEmpty : ¬ ("?" = "") := by decide
  simp only [applyServerCommand, split, hook, named, runCommand_postponeCutOverFlagFile, if_neg notEmpty, created]

/-- `throttle=?` throttles when the migrated table is named `?`. -/
theorem applyServerCommand_throttle_query {env : ServerEnvironment} {this : CommandContext}
    (hook : env.onInteractiveCommand "throttle" = none) (named : this.originalTableName = "?") :
    applyServerCommand env this "throttle=?" =
      (.forcePrintStatusAndHint, none, { this with throttleCommandedByUser := 1 }) := by
  have split : commandAndArg "throttle=?" = ("throttle", "?") := by rfl
  have throttle : ServerCommand.ofName "throttle" = some .throttle := by rfl
  have agreed : tableMismatch "throttle" this "?" = none := by
    rw [tableMismatch_eq_none_iff]
    exact .inr named.symm
  simp only [applyServerCommand, split, hook, throttle, runCommand_throttle, agreed]

/-! ## The integer settings over a run of commands -/

namespace CommandContext

/-- The integer settings of a context. -/
def settings (this : CommandContext) : Int64 × Int64 × Int64 :=
  (this.chunkSize, this.dmlBatchSize, this.maxLagMillisecondsThrottleThreshold)

/-- The bounds the setters keep the integer settings within. -/
structure SettingsInBounds (this : CommandContext) : Prop where
  chunkSize : 10 ≤ this.chunkSize ∧ this.chunkSize ≤ 100000
  dmlBatchSize : 1 ≤ this.dmlBatchSize ∧ this.dmlBatchSize ≤ maxEventsBatchSize
  maxLag : 100 ≤ this.maxLagMillisecondsThrottleThreshold

theorem SettingsInBounds.of_settings {this next : CommandContext} (holds : this.SettingsInBounds)
    (same : next.settings = this.settings) : next.SettingsInBounds := by
  simp only [settings, Prod.mk.injEq] at same
  obtain ⟨chunk, batch, lag⟩ := same
  exact ⟨chunk ▸ holds.chunkSize, batch ▸ holds.dmlBatchSize, lag ▸ holds.maxLag⟩

end CommandContext

theorem clamp_bounds {low high : Int64} (ordered : low ≤ high) (value : Int64) :
    low ≤ clamp low high value ∧ clamp low high value ≤ high := by
  -- the first test raises the value to at least `low`, the second lowers it to at most `high`
  have raised : low ≤ (if value < low then low else value) := by
    split
    · exact Int64.le_refl low
    · rename_i notBelow
      rw [Int64.lt_iff_toInt_lt] at notBelow
      rw [Int64.le_iff_toInt_le]
      omega
  dsimp only [clamp]
  generalize (if value < low then low else value) = raisedValue at raised ⊢
  split
  · exact ⟨ordered, Int64.le_refl high⟩
  · rename_i notAbove
    rw [gt_iff_lt, Int64.lt_iff_toInt_lt] at notAbove
    refine ⟨raised, ?_⟩
    rw [Int64.le_iff_toInt_le]
    omega

theorem readLoadMap_settings (set : CommandContext → LoadMap → CommandContext)
    (keeps : ∀ context loadMap, (set context loadMap).settings = context.settings) (this : CommandContext)
    (loadList : String) :
    ∀ next, CommandContext.readLoadMap set this loadList = .ok next → next.settings = this.settings := by
  intro next parsed
  unfold CommandContext.readLoadMap at parsed
  split at parsed
  · cases parsed
  · cases parsed
    exact keeps this _

/-- Every command but the three integer setters leaves the integer settings as they were. -/
theorem runCommand_settings (env : ServerEnvironment) (this : CommandContext) (arg : String) {c : ServerCommand}
    (other : c ≠ .chunkSize ∧ c ≠ .dmlBatchSize ∧ c ≠ .maxLagMillis) :
    (runCommand env this arg c).2.2.settings = this.settings := by
  cases c with
  | chunkSize | dmlBatchSize | maxLagMillis => simp at other
  | help | sup | status | applier | inspector | replicationLagQuery => rfl
  | cpuProfile | coordinates | throttle | noThrottle =>
    simp only [runCommand_cpuProfile, runCommand_coordinates, runCommand_throttle, runCommand_noThrottle]
    split <;> rfl
  | postponeCutOverFlagFile | panic =>
    simp only [runCommand_postponeCutOverFlagFile, runCommand_panic]
    split
    · rfl
    · split <;> rfl
  | unpostpone =>
    simp only [runCommand_unpostpone]
    split
    · rfl
    · split
      · rfl
      · split <;> rfl
  | maxLoad | criticalLoad =>
    refine readCase_preserves (fun next => next.settings = this.settings) rfl (readLoadMap_settings _ ?_ this arg)
    intro context loadMap
    rfl
  | niceRatio =>
    refine readCase_preserves (fun next => next.settings = this.settings) rfl fun next parsed => ?_
    cases ratio : env.parseFloat arg with
    | error err => simp [ratio, Except.map] at parsed
    | ok value =>
      simp only [ratio, Except.map, Except.ok.injEq] at parsed
      rw [← parsed]
      rfl
  | throttleQuery | throttleHTTP =>
    refine readCase_preserves (fun next => next.settings = this.settings) rfl fun next parsed => ?_
    cases parsed
    rfl
  | throttleControlReplicas =>
    refine readCase_preserves (fun next => next.settings = this.settings) rfl fun next parsed => ?_
    unfold CommandContext.readThrottleControlReplicaKeys at parsed
    split at parsed
    · cases parsed
    · cases parsed
      rfl

theorem atoiThen_ok {env : ServerEnvironment} {set : CommandContext → Int64 → CommandContext}
    {this next : CommandContext} {arg : String} (parsed : atoiThen env set this arg = .ok next) :
    ∃ value, next = set this value := by
  unfold atoiThen at parsed
  split at parsed
  · rename_i value _
    cases parsed
    exact ⟨value, rfl⟩
  · cases parsed

/-- Every command keeps the integer settings within the setters' bounds. -/
theorem runCommand_settingsInBounds (env : ServerEnvironment) {this : CommandContext} (holds : this.SettingsInBounds)
    (arg : String) (c : ServerCommand) : (runCommand env this arg c).2.2.SettingsInBounds := by
  by_cases setter : c = .chunkSize ∨ c = .dmlBatchSize ∨ c = .maxLagMillis
  · -- a setter stores its clamped argument
    rcases setter with rfl | rfl | rfl <;>
      refine readCase_preserves CommandContext.SettingsInBounds holds fun next parsed => ?_ <;>
      obtain ⟨value, rfl⟩ := atoiThen_ok parsed
    · exact ⟨clamp_bounds (by decide) value, holds.dmlBatchSize, holds.maxLag⟩
    · exact ⟨holds.chunkSize, clamp_bounds (by decide) value, holds.maxLag⟩
    · refine ⟨holds.chunkSize, holds.dmlBatchSize, ?_⟩
      show 100 ≤ if value < 100 then 100 else value
      split
      · exact Int64.le_refl 100
      · rename_i notBelow
        rw [Int64.lt_iff_toInt_lt] at notBelow
        rw [Int64.le_iff_toInt_le]
        omega
  · push Not at setter
    exact holds.of_settings (runCommand_settings env this arg setter)

theorem applyServerCommand_settingsInBounds (env : ServerEnvironment) {this : CommandContext}
    (holds : this.SettingsInBounds) (line : String) : (applyServerCommand env this line).2.2.SettingsInBounds := by
  rcases applyServerCommand_cases env this line with ⟨err, refused⟩ | ⟨c, -, ran⟩
  · rw [refused]
    exact holds
  · rw [ran]
    exact runCommand_settingsInBounds env holds _ c

/-- Over every run of commands the chunk size stays in `[10, 100000]`, the DML batch size in
`[1, MaxEventsBatchSize]` and the lag threshold at least 100, when they start there. -/
theorem applyServerCommands_settingsInBounds (env : ServerEnvironment) {this : CommandContext}
    (holds : this.SettingsInBounds) (lines : List String) :
    (applyServerCommands env this lines).SettingsInBounds := by
  induction lines generalizing this with
  | nil => exact holds
  | cons line rest ih => exact ih (applyServerCommand_settingsInBounds env holds line)

/-! ## The field a command writes -/

/-- What the `case` of a command may do to the context: write its one field, with what its
setter stores there. The commands that only print write nothing. -/
def ServerCommand.Writes (this next : CommandContext) : ServerCommand → Prop
  | .help | .sup | .status | .cpuProfile | .coordinates | .applier | .inspector | .replicationLagQuery => False
  | .chunkSize => ∃ chunkSize, next = this.setChunkSize chunkSize
  | .dmlBatchSize => ∃ batchSize, next = this.setDMLBatchSize batchSize
  | .maxLagMillis => ∃ threshold, next = this.setMaxLagMillisecondsThrottleThreshold threshold
  | .niceRatio => ∃ ratio, next = this.setNiceRatio ratio
  | .maxLoad => ∃ maxLoad, next = { this with maxLoad }
  | .criticalLoad => ∃ criticalLoad, next = { this with criticalLoad }
  | .throttleQuery => ∃ query, next = this.setThrottleQuery query
  | .throttleHTTP => ∃ throttleHTTP, next = this.setThrottleHTTP throttleHTTP
  | .throttleControlReplicas => ∃ keys, next = { this with throttleControlReplicaKeys := keys }
  | .throttle => next = { this with throttleCommandedByUser := 1 }
  | .noThrottle => next = { this with throttleCommandedByUser := 0 }
  | .postponeCutOverFlagFile => ∃ file, next = { this with postponeCutOverFlagFile := file }
  | .unpostpone => next = { this with userCommandedUnpostponeFlag := 1 }
  | .panic => next = { this with panicAbort := this.panicAbort ++ [panicError] }

/-- A parse-and-set `case` keeps the context or writes what its parser returned. -/
theorem readCase_writes {read : CommandContext → String → Except String CommandContext} {this : CommandContext}
    {arg : String} (written : CommandContext → Prop) (parsed : ∀ next, read this arg = .ok next → written next) :
    (readCase read this arg).2.2 = this ∨ written (readCase read this arg).2.2 :=
  readCase_preserves (fun next => next = this ∨ written next) (.inl rfl) fun next ok => .inr (parsed next ok)

/-- Every `case` keeps the context or writes its field. -/
theorem runCommand_writes (env : ServerEnvironment) (this : CommandContext) (arg : String) (c : ServerCommand) :
    (runCommand env this arg c).2.2 = this ∨ c.Writes this (runCommand env this arg c).2.2 := by
  cases c with
  | help | sup | status | applier | inspector | replicationLagQuery => exact .inl rfl
  | cpuProfile | coordinates =>
    left
    simp only [runCommand_cpuProfile, runCommand_coordinates]
    split <;> rfl
  | chunkSize | dmlBatchSize | maxLagMillis => exact readCase_writes (fun next => ServerCommand.Writes this next _) fun next parsed => atoiThen_ok parsed
  | niceRatio =>
    refine readCase_writes (fun next => ServerCommand.Writes this next _) fun next parsed => ?_
    cases ratio : env.parseFloat arg with
    | error err => simp [ratio, Except.map] at parsed
    | ok value =>
      simp only [ratio, Except.map, Except.ok.injEq] at parsed
      exact ⟨value, parsed.symm⟩
  | maxLoad | criticalLoad =>
    refine readCase_writes (fun next => ServerCommand.Writes this next _) fun next parsed => ?_
    simp only [CommandContext.readMaxLoad, CommandContext.readCriticalLoad, CommandContext.readLoadMap] at parsed
    split at parsed
    · cases parsed
    · cases parsed
      exact ⟨_, rfl⟩
  | throttleQuery | throttleHTTP => exact readCase_writes (fun next => ServerCommand.Writes this next _) fun next parsed =>
      ⟨arg, (Except.ok.inj parsed).symm⟩
  | throttleControlReplicas =>
    refine readCase_writes (fun next => ServerCommand.Writes this next _) fun next parsed => ?_
    unfold CommandContext.readThrottleControlReplicaKeys at parsed
    split at parsed
    · cases parsed
    · cases parsed
      exact ⟨_, rfl⟩
  | throttle | noThrottle =>
    simp only [runCommand_throttle, runCommand_noThrottle]
    split
    · exact .inl rfl
    · exact .inr rfl
  | postponeCutOverFlagFile =>
    simp only [runCommand_postponeCutOverFlagFile]
    split
    · exact .inl rfl
    · split
      · exact .inl rfl
      · exact .inr ⟨_, rfl⟩
  | unpostpone =>
    simp only [runCommand_unpostpone]
    split
    · exact .inl rfl
    · split
      · exact .inl rfl
      · split
        · exact .inr rfl
        · exact .inl rfl
  | panic =>
    simp only [runCommand_panic]
    split
    · exact .inl rfl
    · split
      · exact .inl rfl
      · exact .inr rfl

/-- Every command line keeps the context or writes the field of the `case` it names. -/
theorem applyServerCommand_writes (env : ServerEnvironment) (this : CommandContext) (line : String) :
    (applyServerCommand env this line).2.2 = this ∨
      ∃ c, ServerCommand.ofName (commandAndArg line).1 = some c ∧ c.Writes this (applyServerCommand env this line).2.2 := by
  rcases applyServerCommand_cases env this line with ⟨err, refused⟩ | ⟨c, named, ran⟩
  · exact .inl (by rw [refused])
  · rw [ran]
    exact (runCommand_writes env this _ c).imp_right fun writes => ⟨c, named, writes⟩

/-- An interactive command that returns an error leaves the migration context as it was,
but for `panic`, which sends its error on `PanicAbort`. A `?` argument leaves it as it was
too, but for `postpone-cut-over-flag-file`, which has no `?` form and postpones the
cut-over on a flag file named `?`, and for the commands that take a table name when the
migrated table is itself named `?`. -/
theorem interactive_commands_keep_state_on_error :
    (∀ env this line err, (applyServerCommand env this line).2.1 = some err →
      (applyServerCommand env this line).2.2 = this ∨
        (ServerCommand.ofName (commandAndArg line).1 = some .panic ∧ err = panicError ∧
          (applyServerCommand env this line).2.2 = { this with panicAbort := this.panicAbort ++ [panicError] })) ∧
    (∀ env this line, (commandAndArg line).2 = "?" →
      (applyServerCommand env this line).2.2 = this ∨
        ServerCommand.ofName (commandAndArg line).1 = some .postponeCutOverFlagFile ∨
        this.originalTableName = "?") ∧
    (∀ env this, env.onInteractiveCommand "postpone-cut-over-flag-file" = none →
      createPostponeCutOverFlagFile env "?" = none →
      applyServerCommand env this "postpone-cut-over-flag-file=?" =
        (.forcePrintStatusAndHint, none, { this with postponeCutOverFlagFile := "?" })) ∧
    (∀ env this, env.onInteractiveCommand "throttle" = none → this.originalTableName = "?" →
      applyServerCommand env this "throttle=?" =
        (.forcePrintStatusAndHint, none, { this with throttleCommandedByUser := 1 })) :=
  ⟨fun _ _ _ _ failed => applyServerCommand_of_error failed,
    fun _ _ _ query => applyServerCommand_query query,
    fun _ _ hook created => applyServerCommand_postpone_query hook created,
    fun _ _ hook named => applyServerCommand_throttle_query hook named⟩

/-- A server whose hooks, profiler and file system all succeed. -/
def quietEnvironment : ServerEnvironment where
  onInteractiveCommand _ := none
  runCPUProfile _ := .ok ""
  parseFloat _ := .ok 0
  atoiError arg := "strconv.Atoi: parsing " ++ arg ++ ": invalid syntax"
  fileExists _ := false
  touchFile _ := none

/-- A migration of `sbtest1` in its default settings, not postponing its cut-over. -/
def sbtestContext : CommandContext where
  originalTableName := "sbtest1"
  chunkSize := 1000
  dmlBatchSize := 10
  maxLagMillisecondsThrottleThreshold := 1500
  niceRatio := 0
  maxLoad := ∅
  criticalLoad := ∅
  throttleQuery := ""
  throttleHTTP := ""
  throttleControlReplicaKeys := ∅
  throttleCommandedByUser := 0
  postponeCutOverFlagFile := ""
  forceNamedCutOverCommand := false
  forceNamedPanicCommand := false
  isPostponingCutOver := 0
  userCommandedUnpostponeFlag := 0
  panicAbort := []

/-- Asking `postpone-cut-over-flag-file=?` of a migration with no flag file postpones its
cut-over on a new flag file `?`. -/
theorem postpone_query_creates_flag_file :
    sbtestContext.postponeCutOverFlagFile = "" ∧
      (applyServerCommand quietEnvironment sbtestContext "postpone-cut-over-flag-file=?").2.2.postponeCutOverFlagFile =
        "?" := by
  refine ⟨rfl, ?_⟩
  rw [interactive_commands_keep_state_on_error.2.2.1 quietEnvironment sbtestContext rfl rfl]

/-- Commands asking for a chunk size below 10, a batch size above `MaxEventsBatchSize` and
a lag threshold below 100 leave the settings of the default migration in their bounds. -/
theorem out_of_range_settings_clamped :
    sbtestContext.SettingsInBounds ∧
      (applyServerCommands quietEnvironment sbtestContext
        ["chunk-size=5", "dml-batch-size=5000", "max-lag-millis=0"]).SettingsInBounds :=
  have holds : sbtestContext.SettingsInBounds := ⟨by decide, by decide, by decide⟩
  ⟨holds, applyServerCommands_settingsInBounds quietEnvironment holds _⟩

end GhOst.Logic