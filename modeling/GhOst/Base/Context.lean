import Mathlib.Data.List.Basic

/-! The names a migration gives the tables and the triggers it creates (`context.go`),
and the inspector's check of the ghost triggers' names (`inspect.go`).

A Go string is a sequence of bytes, and `getSafeTableName` measures and cuts a table
name in bytes, so table names are byte lists here; MySQL's limit of 64 counts
characters. Trigger names only ever gain or lose a whole suffix, so they stay valid
UTF-8 and are `String`s, whose characters are the runes
`ValidateGhostTriggerLengthBelowMaxLength` counts. -/

namespace GhOst.Base

/-- `mysql.MaxTableNameLength`, in characters. -/
def maxTableNameLength : Nat := 64

/-- The bytes of an ASCII text, one per character. -/
def ascii (text : String) : List UInt8 :=
  text.toList.map Char.toUInt8

/-- A byte string that is valid UTF-8, and so names a MySQL object at all. -/
def ValidUTF8 (bytes : List UInt8) : Prop :=
  (String.fromUTF8? ⟨bytes.toArray⟩).isSome

instance (bytes : List UInt8) : Decidable (ValidUTF8 bytes) :=
  inferInstanceAs (Decidable (_ = true))

/-- `getSafeTableName`: `_baseName_suffix`, cut from the end of `baseName` down to 64
bytes. When the suffix alone leaves no room (over 62 bytes) the source's slice panics:
`none`. -/
def getSafeTableName (baseName suffix : List UInt8) : Option (List UInt8) :=
  let name := ascii "_" ++ baseName ++ ascii "_" ++ suffix
  if name.length ≤ maxTableNameLength then some name
  else
    let extraCharacters := name.length - maxTableNameLength
    if extraCharacters ≤ baseName.length then
      some (ascii "_" ++ baseName.take (baseName.length - extraCharacters) ++ ascii "_" ++ suffix)
    else none

/-- The fields of `time.Time` the old table's timestamp prints; Go's zero time by default. -/
structure StartTime where
  year : Nat := 1
  month : Nat := 1
  day : Nat := 1
  hour : Nat := 0
  minute : Nat := 0
  second : Nat := 0
  deriving DecidableEq, Repr

/-- `%02d`. -/
def padTwo (value : Nat) : String :=
  if value < 10 then "0" ++ toString value else toString value

/-- `fmt.Sprintf("%d%02d%02d%02d%02d%02d", ...)` of the start time. -/
def StartTime.timestamp (t : StartTime) : List UInt8 :=
  ascii (toString t.year ++ padTwo t.month ++ padTwo t.day ++ padTwo t.hour ++ padTwo t.minute ++
    padTwo t.second)

/-- The fields of `MigrationContext` that the names read. -/
structure MigrationContext where
  originalTableName : List UInt8
  forceTmpTableName : List UInt8 := []
  oldTableName : List UInt8 := []
  revert : Bool := false
  timestampOldTable : Bool := false
  startTime : StartTime := {}
  triggerSuffix : String := ""
  removeTriggerSuffix : Bool := false
  deriving DecidableEq, Repr

namespace MigrationContext

/-- The base of the auxiliary tables' names: `--force-table-names` when given, else the
original table's name. -/
def baseTableName (this : MigrationContext) : List UInt8 :=
  if this.forceTmpTableName ≠ [] then this.forceTmpTableName else this.originalTableName

/-- `GetGhostTableName`: when reverting, the old table of the migration being reverted. -/
def getGhostTableName (this : MigrationContext) : Option (List UInt8) :=
  if this.revert then some this.oldTableName
  else getSafeTableName this.baseTableName (ascii "gho")

def getOldTableName (this : MigrationContext) : Option (List UInt8) :=
  let suffix := if this.revert then ascii "rev_del" else ascii "del"
  if this.timestampOldTable then
    getSafeTableName this.baseTableName (this.startTime.timestamp ++ ascii "_" ++ suffix)
  else getSafeTableName this.baseTableName suffix

def getChangelogTableName (this : MigrationContext) : Option (List UInt8) :=
  getSafeTableName this.baseTableName (ascii "ghc")

def getCheckpointTableName (this : MigrationContext) : Option (List UInt8) :=
  getSafeTableName this.baseTableName (ascii "ghk")

/-- `GetGhostTriggerName`: the suffix comes off a name that ends in it when
`--remove-trigger-suffix-if-exists` is set, and is appended otherwise. -/
def getGhostTriggerName (this : MigrationContext) (triggerName : String) : String :=
  if this.removeTriggerSuffix && this.triggerSuffix.toList.isSuffixOf triggerName.toList then
    String.ofList (triggerName.toList.take (triggerName.toList.length - this.triggerSuffix.toList.length))
  else triggerName ++ this.triggerSuffix

/-- `ValidateGhostTriggerLengthBelowMaxLength`: the ghost name of the given trigger name
has at most 64 characters. -/
def validateGhostTriggerLengthBelowMaxLength (this : MigrationContext) (triggerName : String) : Bool :=
  (this.getGhostTriggerName triggerName).length ≤ maxTableNameLength

end MigrationContext

/-- `Inspector.validateGhostTriggersLength`: each trigger's ghost name is passed to
`ValidateGhostTriggerLengthBelowMaxLength`, which takes the ghost name of it again. -/
def validateGhostTriggersLength (context : MigrationContext) (triggers : List String) : Except String Unit :=
  if triggers.length > 0 then
    let foundTriggers := (triggers.map context.getGhostTriggerName).filter fun triggerName =>
      !context.validateGhostTriggerLengthBelowMaxLength triggerName
    if foundTriggers.length > 0 then
      .error ("Gh-ost triggers (" ++ ",".intercalate foundTriggers ++ ") length > " ++
        toString maxTableNameLength ++ " characters. Bailing out")
    else .ok ()
  else .ok ()

/-! ## What `getSafeTableName` builds -/

@[simp] theorem ascii_underscore : ascii "_" = [95] := by decide

/-- A name that fits is kept whole. -/
theorem getSafeTableName_of_fits {baseName suffix : List UInt8}
    (fits : baseName.length + suffix.length + 2 ≤ maxTableNameLength) :
    getSafeTableName baseName suffix = some (95 :: baseName ++ 95 :: suffix) := by
  have short : (95 :: (baseName ++ 95 :: suffix)).length ≤ maxTableNameLength := by simp; omega
  simp only [getSafeTableName, ascii_underscore, List.cons_append, List.nil_append, List.append_assoc]
  rw [if_pos short]

/-- A name that does not fit keeps the first `62 - |suffix|` bytes of the base name, and
so is exactly 64 bytes long. -/
theorem getSafeTableName_of_long {baseName suffix : List UInt8}
    (long : maxTableNameLength < baseName.length + suffix.length + 2) (room : suffix.length ≤ 62) :
    getSafeTableName baseName suffix =
      some (95 :: baseName.take (62 - suffix.length) ++ 95 :: suffix) := by
  simp only [getSafeTableName, ascii_underscore, List.cons_append, List.nil_append, List.append_assoc,
    List.length_cons, List.length_append, maxTableNameLength] at long ⊢
  rw [if_neg (by omega), if_pos (by omega)]
  have kept : baseName.length - (baseName.length + (suffix.length + 1) + 1 - 64) = 62 - suffix.length := by
    omega
  rw [kept]

/-- A name of 45 characters is cut, in the middle of a character: -/
example : ValidUTF8 (95 :: ((List.replicate 40 [195, 169]).flatten ++ 95 :: ascii "gho")) ∧
    ¬ ValidUTF8 ((getSafeTableName (List.replicate 40 [195, 169]).flatten (ascii "gho")).getD []) := by
  decide

/-- Underscores then the suffix, 64 bytes in all: the safe name of this base name is the
base name itself. -/
theorem getSafeTableName_self (suffix : List UInt8) (room : suffix.length ≤ 62) :
    getSafeTableName (List.replicate (64 - suffix.length) 95 ++ suffix) suffix =
      some (List.replicate (64 - suffix.length) 95 ++ suffix) := by
  rw [getSafeTableName_of_long (by simp [maxTableNameLength]; omega) room]
  have kept : (List.replicate (64 - suffix.length) (95 : UInt8) ++ suffix).take (62 - suffix.length) =
      List.replicate (62 - suffix.length) 95 := by
    rw [List.take_append_of_le_length (by simp; omega), List.take_replicate]
    congr 1
    omega
  rw [kept]
  have whole : 64 - suffix.length = (62 - suffix.length) + 1 + 1 := by omega
  rw [whole, List.replicate_succ, List.replicate_succ']
  simp

/-- The old table of a migration and that of a revert share one name when the base name
has `_rev` where the first cuts it. -/
theorem getSafeTableName_del_rev_del {prefix_ rest : List UInt8} (cut : prefix_.length = 55)
    (longer : 1 ≤ rest.length) :
    getSafeTableName (prefix_ ++ ascii "_rev" ++ rest) (ascii "del") =
      getSafeTableName (prefix_ ++ ascii "_rev" ++ rest) (ascii "rev_del") := by
  have revLength : (ascii "_rev").length = 4 := rfl
  rw [getSafeTableName_of_long (by simp [maxTableNameLength, revLength, cut]; simp [ascii]; omega) (by decide),
    getSafeTableName_of_long (by simp [maxTableNameLength, revLength, cut]; simp [ascii]; omega) (by decide)]
  have first : (prefix_ ++ ascii "_rev" ++ rest).take (62 - (ascii "del").length) = prefix_ ++ ascii "_rev" :=
    List.take_left' (by simp [revLength, cut]; rfl)
  have second : (prefix_ ++ ascii "_rev" ++ rest).take (62 - (ascii "rev_del").length) = prefix_ := by
    rw [List.append_assoc]
    exact List.take_left' (by rw [cut]; rfl)
  have spelled : ascii "_rev" ++ 95 :: ascii "del" = 95 :: ascii "rev_del" := by decide
  rw [first, second]
  simp only [List.cons_append, List.append_assoc, spelled]

/-! ## The tables a migration creates -/

namespace MigrationContext

/-- An original table named with underscores and the ghost, changelog or checkpoint
table's suffix, 64 bytes in all, is its own ghost, changelog or checkpoint table. -/
theorem auxiliary_table_is_original (context : MigrationContext) (unforced : context.forceTmpTableName = [])
    (notReverting : context.revert = false) :
    (context.originalTableName = List.replicate 61 95 ++ ascii "gho" →
      context.getGhostTableName = some context.originalTableName) ∧
    (context.originalTableName = List.replicate 61 95 ++ ascii "ghc" →
      context.getChangelogTableName = some context.originalTableName) ∧
    (context.originalTableName = List.replicate 61 95 ++ ascii "ghk" →
      context.getCheckpointTableName = some context.originalTableName) := by
  have base : context.baseTableName = context.originalTableName := by simp [baseTableName, unforced]
  refine ⟨fun named => ?_, fun named => ?_, fun named => ?_⟩
  · rw [getGhostTableName, if_neg (by simp [notReverting]), base, named]
    exact getSafeTableName_self (ascii "gho") (by decide)
  · rw [getChangelogTableName, base, named]
    exact getSafeTableName_self (ascii "ghc") (by decide)
  · rw [getCheckpointTableName, base, named]
    exact getSafeTableName_self (ascii "ghk") (by decide)

/-- The migration of `_..._ghk`, 64 bytes: its checkpoint table, which
`CreateCheckpointTable` drops before creating it, is the original table. -/
theorem checkpoint_table_is_original :
    ({ originalTableName := List.replicate 61 95 ++ ascii "ghk" } : MigrationContext).getCheckpointTableName =
      some (List.replicate 61 95 ++ ascii "ghk") :=
  (auxiliary_table_is_original { originalTableName := List.replicate 61 95 ++ ascii "ghk" } rfl rfl).2.2 rfl

/-! ## Ghost trigger names -/

theorem getGhostTriggerName_of_keep (context : MigrationContext) (keep : context.removeTriggerSuffix = false)
    (triggerName : String) : context.getGhostTriggerName triggerName = triggerName ++ context.triggerSuffix := by
  simp [getGhostTriggerName, keep]

theorem getGhostTriggerName_of_suffixed (context : MigrationContext) (remove : context.removeTriggerSuffix = true)
    (triggerName : String) :
    context.getGhostTriggerName (triggerName ++ context.triggerSuffix) = triggerName := by
  have suffixed : context.triggerSuffix.toList.isSuffixOf (triggerName.toList ++ context.triggerSuffix.toList) := by
    simp [List.isSuffixOf_iff_suffix]
  simp only [getGhostTriggerName, remove, String.toList_append, suffixed, Bool.and_self, ↓reduceIte,
    List.length_append, Nat.add_sub_cancel, List.take_left, String.ofList_toList]

theorem getGhostTriggerName_of_unsuffixed (context : MigrationContext) (triggerName : String)
    (unsuffixed : context.triggerSuffix.toList.isSuffixOf triggerName.toList = false) :
    context.getGhostTriggerName triggerName = triggerName ++ context.triggerSuffix := by
  simp [getGhostTriggerName, unsuffixed]

end MigrationContext

/-- `validateGhostTriggersLength` passes exactly when every trigger's ghost name,
renamed once more, has at most 64 characters. -/
theorem validateGhostTriggersLength_ok_iff (context : MigrationContext) (triggers : List String) :
    validateGhostTriggersLength context triggers = .ok () ↔
      ∀ trigger ∈ triggers,
        (context.getGhostTriggerName (context.getGhostTriggerName trigger)).length ≤ maxTableNameLength := by
  unfold validateGhostTriggersLength
  by_cases some : triggers.length > 0
  · rw [if_pos some]
    by_cases found : ((triggers.map context.getGhostTriggerName).filter fun triggerName =>
        !context.validateGhostTriggerLengthBelowMaxLength triggerName).length > 0
    · rw [if_pos found]
      obtain ⟨name, member⟩ := List.exists_mem_of_length_pos found
      obtain ⟨trigger, present, rfl⟩ := List.mem_map.mp (List.mem_filter.mp member).1
      have tooLong := (List.mem_filter.mp member).2
      simp only [MigrationContext.validateGhostTriggerLengthBelowMaxLength, Bool.not_eq_eq_eq_not,
        Bool.not_true, decide_eq_false_iff_not] at tooLong
      simp only [reduceCtorEq, false_iff, not_forall]
      exact ⟨trigger, present, tooLong⟩
    · rw [if_neg found]
      simp only [gt_iff_lt, List.length_pos_iff, ne_eq, not_not, List.filter_eq_nil_iff, List.mem_map,
        forall_exists_index, and_imp, forall_apply_eq_imp_iff₂, Bool.not_eq_eq_eq_not, Bool.not_true,
        Bool.not_eq_false, MigrationContext.validateGhostTriggerLengthBelowMaxLength,
        decide_eq_true_eq] at found
      simpa using found
  · rw [if_neg some]
    simp only [gt_iff_lt, List.length_pos_iff, ne_eq, not_not] at some
    simp [some]

/-- The check renames each trigger twice. Without `--remove-trigger-suffix-if-exists` it
rejects a trigger whose name plus twice the suffix exceeds 64 characters, although the
trigger it creates carries the suffix once; with it, a trigger not ending in the suffix
passes whenever its own name fits, although the trigger it creates carries the suffix. -/
theorem ghost_trigger_check_renames_twice (context : MigrationContext) (trigger : String) :
    (context.removeTriggerSuffix = false →
      (context.getGhostTriggerName trigger).length = trigger.length + context.triggerSuffix.length ∧
      (validateGhostTriggersLength context [trigger] = .ok () ↔
        trigger.length + 2 * context.triggerSuffix.length ≤ maxTableNameLength)) ∧
    (context.removeTriggerSuffix = true → context.triggerSuffix.toList.isSuffixOf trigger.toList = false →
      trigger.length ≤ maxTableNameLength →
      (context.getGhostTriggerName trigger).length = trigger.length + context.triggerSuffix.length ∧
      validateGhostTriggersLength context [trigger] = .ok ()) := by
  constructor
  · intro keep
    have once := context.getGhostTriggerName_of_keep keep trigger
    refine ⟨by simp [once], ?_⟩
    rw [validateGhostTriggersLength_ok_iff, List.forall_mem_singleton, once,
      context.getGhostTriggerName_of_keep keep]
    simp only [String.length_append]
    omega
  · intro remove unsuffixed fits
    have once := context.getGhostTriggerName_of_unsuffixed trigger unsuffixed
    refine ⟨by simp [once], ?_⟩
    rw [validateGhostTriggersLength_ok_iff, List.forall_mem_singleton, once,
      context.getGhostTriggerName_of_suffixed remove]
    exact fits

/-- Suffix `_ght`: a trigger of 60 characters, whose ghost has 64, is rejected; with the
suffix removal set, one of 64 characters, whose ghost has 68, passes. -/
theorem ghost_trigger_check_at_64 :
    ((({ originalTableName := [], triggerSuffix := "_ght" } : MigrationContext).getGhostTriggerName
        (String.ofList (List.replicate 60 'a'))).length = 64 ∧
      validateGhostTriggersLength { originalTableName := [], triggerSuffix := "_ght" }
        [String.ofList (List.replicate 60 'a')] ≠ .ok ()) ∧
    ((({ originalTableName := [], triggerSuffix := "_ght", removeTriggerSuffix := true } : MigrationContext).getGhostTriggerName
        (String.ofList (List.replicate 64 'a'))).length = 68 ∧
      validateGhostTriggersLength { originalTableName := [], triggerSuffix := "_ght", removeTriggerSuffix := true }
        [String.ofList (List.replicate 64 'a')] = .ok ()) := by
  have suffixLength : "_ght".length = 4 := rfl
  have sixty : (String.ofList (List.replicate 60 'a')).length = 60 := by
    rw [String.length_ofList, List.length_replicate]
  have sixtyFour : (String.ofList (List.replicate 64 'a')).length = 64 := by
    rw [String.length_ofList, List.length_replicate]
  obtain ⟨strictName, strictCheck⟩ :=
    (ghost_trigger_check_renames_twice { originalTableName := [], triggerSuffix := "_ght" }
      (String.ofList (List.replicate 60 'a'))).1 rfl
  obtain ⟨laxName, laxCheck⟩ :=
    (ghost_trigger_check_renames_twice { originalTableName := [], triggerSuffix := "_ght", removeTriggerSuffix := true }
      (String.ofList (List.replicate 64 'a'))).2 rfl (by decide) (by rw [sixtyFour]; decide)
  refine ⟨⟨?_, fun passed => ?_⟩, ?_, laxCheck⟩
  · rw [strictName, sixty]
    rfl
  · have tooLong := strictCheck.mp passed
    rw [sixty] at tooLong
    exact absurd tooLong (by decide)
  · rw [laxName, sixtyFour]
    rfl

end GhOst.Base
