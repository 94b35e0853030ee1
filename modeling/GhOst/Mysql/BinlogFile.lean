import GhOst.Go.Strconv
import GhOst.Go.Strings
import Mathlib.Data.Set.Defs

/-! `FileBinlogCoordinates` (`binlog_file.go`): a binlog file and a position in it.
`SmallerThan` orders two coordinates by the number that ends the file's name
(`FileNumber`, read with `Atoi`, 0 when that fails) and then by position, while
`Equals` compares the file names themselves. On the files of one series, named
`P.D` for a fixed prefix `P` and numbers `D` that tell files apart, the two agree
and `SmallerThan` is the lexicographic order on (file number, position). The
coordinates compared here are always file coordinates; the interface cases of the
source (a GTID coordinate or `nil`, for which both answer false) are not modelled. -/

namespace GhOst.Mysql

structure FileBinlogCoordinates where
  logFile : String
  logPos : Int64
  deriving DecidableEq, Repr

/-- `ParseFileBinlogCoordinates`: `strings.SplitN(s, ":", 2)` keeps everything after the
first `:` as the position. -/
def parseFileBinlogCoordinates (logFileLogPos : String) : Option FileBinlogCoordinates :=
  match logFileLogPos.toList.splitOn ':' with
  | logFile :: pos :: more =>
    (Go.Strconv.ParseInt (String.ofList ([':'].intercalate (pos :: more)))).map fun logPos =>
      { logFile := String.ofList logFile, logPos }
  | _ => none

namespace FileBinlogCoordinates

/-- `DisplayString`, which `String` returns: `file:pos`. -/
def displayString (this : FileBinlogCoordinates) : String :=
  this.logFile ++ ":" ++ toString this.logPos

/-- `ParseFileBinlogCoordinates` reads back what `String` prints, for a file name
without `:`. -/
theorem parseFileBinlogCoordinates_displayString (this : FileBinlogCoordinates)
    (noColon : ':' ∉ this.logFile.toList) : parseFileBinlogCoordinates this.displayString = some this := by
  have unsigned : ':' ∉ (toString this.logPos).toList := by
    intro colon
    rcases Go.Strconv.mem_toString_int64 colon with sign | digit
    · cases sign
    · simp at digit
  have colon : ":".toList = [':'] := rfl
  have split : this.displayString.toList.splitOn ':' = [this.logFile.toList, (toString this.logPos).toList] := by
    simp only [displayString, String.toList_append, colon, List.append_assoc, List.singleton_append]
    rw [List.splitOn_append_cons_self_of_not_mem noColon, List.splitOn_eq_singleton unsigned]
  simp [parseFileBinlogCoordinates, split, Go.Strconv.ParseInt_toString]

def equals (this other : FileBinlogCoordinates) : Bool :=
  this.logFile == other.logFile && this.logPos == other.logPos

/-- `FileNumber`: the last `.`-separated token of the file name read as an integer,
with its length in bytes, or `(0, 0)` when it is not one. -/
def fileNumber (this : FileBinlogCoordinates) : Int64 × Nat :=
  let numPart := String.ofList ((this.logFile.toList.splitOn '.').getLast (List.splitOn_ne_nil _ _))
  match Go.Strconv.Atoi numPart with
  | some fileNum => (fileNum, numPart.utf8ByteSize)
  | none => (0, 0)

/-- `FileNumberDistance`: Go's `int` subtraction, which wraps. -/
def fileNumberDistance (this other : FileBinlogCoordinates) : Int64 :=
  other.fileNumber.1 - this.fileNumber.1

def smallerThan (this other : FileBinlogCoordinates) : Bool :=
  let fileNumberDist := this.fileNumberDistance other
  if fileNumberDist = 0 then this.logPos < other.logPos else fileNumberDist > 0

def smallerThanOrEquals (this other : FileBinlogCoordinates) : Bool :=
  if this.smallerThan other then true
  else this.logFile == other.logFile && this.logPos == other.logPos

/-! ## The order on file numbers that do not overflow -/

@[simp] theorem equals_eq_true {a b : FileBinlogCoordinates} :
    a.equals b = true ↔ a.logFile = b.logFile ∧ a.logPos = b.logPos := by
  simp [equals]

theorem smallerThan_self (a : FileBinlogCoordinates) : a.smallerThan a = false := by
  simp [smallerThan, fileNumberDistance]

/-- Subtracting two non-negative `int`s never wraps. -/
theorem toInt_sub_of_nonneg {x y : Int64} (hx : 0 ≤ x.toInt) (hy : 0 ≤ y.toInt) :
    (y - x).toInt = y.toInt - x.toInt := by
  have boundX := Int64.toInt_lt x
  have boundY := Int64.toInt_lt y
  rw [Int64.toInt_sub]
  exact Int.bmod_eq_of_le (by omega) (by omega)

/-- With non-negative file numbers, `SmallerThan` is the lexicographic order on
(file number, position). -/
theorem smallerThan_iff_lex {a b : FileBinlogCoordinates} (ha : 0 ≤ a.fileNumber.1.toInt)
    (hb : 0 ≤ b.fileNumber.1.toInt) :
    a.smallerThan b = true ↔
      Prod.Lex (· < ·) (· < ·) (a.fileNumber.1, a.logPos) (b.fileNumber.1, b.logPos) := by
  have distance := toInt_sub_of_nonneg ha hb
  rw [Prod.lex_def]
  simp only [smallerThan, fileNumberDistance]
  by_cases same : b.fileNumber.1 - a.fileNumber.1 = 0
  · have equal : a.fileNumber.1 = b.fileNumber.1 := by
      rw [← Int64.toInt_inj, distance, Int64.toInt_zero] at same
      rw [← Int64.toInt_inj]
      omega
    simp [equal]
  · rw [← Int64.toInt_inj, distance, Int64.toInt_zero] at same
    simp only [← Int64.toInt_inj, Int64.toInt_zero, distance, same, Int64.lt_iff_toInt_lt, gt_iff_lt,
      if_false, decide_eq_true_eq]
    omega

theorem smallerThan_trans_of_nonneg {a b c : FileBinlogCoordinates} (ha : 0 ≤ a.fileNumber.1.toInt)
    (hb : 0 ≤ b.fileNumber.1.toInt) (hc : 0 ≤ c.fileNumber.1.toInt)
    (first : a.smallerThan b = true) (second : b.smallerThan c = true) : a.smallerThan c = true := by
  rw [smallerThan_iff_lex ha hb] at first
  rw [smallerThan_iff_lex hb hc] at second
  rw [smallerThan_iff_lex ha hc]
  simp only [Prod.lex_def, Int64.lt_iff_toInt_lt, ← Int64.toInt_inj] at first second ⊢
  omega

/-- `FileNumber` reads the file name only. -/
theorem fileNumber_congr {a b : FileBinlogCoordinates} (same : a.logFile = b.logFile) :
    a.fileNumber = b.fileNumber := by
  simp [fileNumber, same]

/-- Where equal file numbers mean equal files, exactly one of `SmallerThan`, `Equals`
and the converse `SmallerThan` holds. -/
theorem exactly_one_of_numbered {a b : FileBinlogCoordinates} (ha : 0 ≤ a.fileNumber.1.toInt)
    (hb : 0 ≤ b.fileNumber.1.toInt) (numbered : a.fileNumber.1 = b.fileNumber.1 → a.logFile = b.logFile) :
    [a.smallerThan b, a.equals b, b.smallerThan a].count true = 1 := by
  have forward := smallerThan_iff_lex ha hb
  have backward := smallerThan_iff_lex hb ha
  simp only [Prod.lex_def, Int64.lt_iff_toInt_lt, ← Int64.toInt_inj] at forward backward
  have equals_iff : a.equals b = true ↔ a.logFile = b.logFile ∧ a.logPos.toInt = b.logPos.toInt := by
    simp [Int64.toInt_inj]
  by_cases same : a.fileNumber.1 = b.fileNumber.1
  · have file := numbered same
    rw [← Int64.toInt_inj] at same
    rcases Int.lt_trichotomy a.logPos.toInt b.logPos.toInt with lower | equal | higher
    · have ab : a.smallerThan b = true := forward.mpr (Or.inr ⟨same, lower⟩)
      have eq : a.equals b = false := Bool.eq_false_iff.mpr fun h => by have := equals_iff.mp h; omega
      have ba : b.smallerThan a = false := Bool.eq_false_iff.mpr fun h => by have := backward.mp h; omega
      rw [ab, eq, ba]
      rfl
    · have ab : a.smallerThan b = false := Bool.eq_false_iff.mpr fun h => by have := forward.mp h; omega
      have eq : a.equals b = true := equals_iff.mpr ⟨file, equal⟩
      have ba : b.smallerThan a = false := Bool.eq_false_iff.mpr fun h => by have := backward.mp h; omega
      rw [ab, eq, ba]
      rfl
    · have ab : a.smallerThan b = false := Bool.eq_false_iff.mpr fun h => by have := forward.mp h; omega
      have eq : a.equals b = false := Bool.eq_false_iff.mpr fun h => by have := equals_iff.mp h; omega
      have ba : b.smallerThan a = true := backward.mpr (Or.inr ⟨same.symm, higher⟩)
      rw [ab, eq, ba]
      rfl
  · have eq : a.equals b = false := Bool.eq_false_iff.mpr fun h =>
      same (congrArg Prod.fst (fileNumber_congr (equals_iff.mp h).1))
    rw [← Int64.toInt_inj] at same
    rcases Int.lt_or_gt_of_ne same with lower | higher
    · have ab : a.smallerThan b = true := forward.mpr (Or.inl lower)
      have ba : b.smallerThan a = false := Bool.eq_false_iff.mpr fun h => by have := backward.mp h; omega
      rw [ab, eq, ba]
      rfl
    · have ab : a.smallerThan b = false := Bool.eq_false_iff.mpr fun h => by have := forward.mp h; omega
      have ba : b.smallerThan a = true := backward.mpr (Or.inl higher)
      rw [ab, eq, ba]
      rfl

/-! ## One binlog series -/

/-- A file of the binlog series `logPrefix`: `logPrefix.D` for a decimal numeral `D`
whose value fits in `int`. -/
def InSeries (logPrefix : String) (coordinates : FileBinlogCoordinates) : Prop :=
  ∃ digits value, coordinates.logFile = logPrefix ++ "." ++ String.ofList digits ∧
    Go.Strconv.parseDecimal digits = some value ∧ value < 2 ^ 63

/-- Coordinates of one binlog series, in which distinct files have distinct numbers. -/
structure Series (logPrefix : String) (coordinates : Set FileBinlogCoordinates) : Prop where
  inSeries : ∀ c ∈ coordinates, InSeries logPrefix c
  numbered : ∀ a ∈ coordinates, ∀ b ∈ coordinates, a.fileNumber.1 = b.fileNumber.1 → a.logFile = b.logFile

theorem fileNumber_of_inSeries {logPrefix : String} {c : FileBinlogCoordinates} (member : InSeries logPrefix c) :
    ∃ value < 2 ^ 63, c.fileNumber.1 = Int64.ofNat value := by
  obtain ⟨digits, value, named, parsed, fits⟩ := member
  have noDot : '.' ∉ digits := by
    intro dot
    unfold Go.Strconv.parseDecimal at parsed
    split at parsed
    next numeral => simpa using List.all_eq_true.mp numeral.2 '.' dot
    · cases parsed
  have lastToken : (c.logFile.toList.splitOn '.').getLast (List.splitOn_ne_nil _ _) = digits := by
    simp only [named, String.toList_append]
    simp [List.splitOn_append_cons_self, List.splitOn_eq_singleton noDot]
  refine ⟨value, fits, ?_⟩
  simp [fileNumber, lastToken, Go.Strconv.Atoi, Go.Strconv.ParseInt_of_parseDecimal parsed fits]

theorem fileNumber_nonneg_of_inSeries {logPrefix : String} {c : FileBinlogCoordinates}
    (member : InSeries logPrefix c) : 0 ≤ c.fileNumber.1.toInt := by
  obtain ⟨value, fits, number⟩ := fileNumber_of_inSeries member
  rw [number, Int64.toInt_ofNat_of_lt fits]
  omega

theorem smallerThanOrEquals_eq (a b : FileBinlogCoordinates) :
    a.smallerThanOrEquals b = (a.smallerThan b || a.equals b) := by
  unfold smallerThanOrEquals equals
  cases a.smallerThan b <;> rfl

/-- On the coordinates of one binlog series, `SmallerThan` is a strict order in which any
two coordinates compare one way, the other, or are `Equals`; it is the lexicographic
order on (file number, position), and `SmallerThanOrEquals` is its reflexive closure. -/
theorem smallerThan_series_total {logPrefix : String} {coordinates : Set FileBinlogCoordinates}
    (series : Series logPrefix coordinates) :
    (∀ a ∈ coordinates, a.smallerThan a = false) ∧
    (∀ a ∈ coordinates, ∀ b ∈ coordinates, ∀ c ∈ coordinates,
      a.smallerThan b = true → b.smallerThan c = true → a.smallerThan c = true) ∧
    (∀ a ∈ coordinates, ∀ b ∈ coordinates, [a.smallerThan b, a.equals b, b.smallerThan a].count true = 1) ∧
    (∀ a ∈ coordinates, ∀ b ∈ coordinates, a.smallerThan b = true ↔
      Prod.Lex (· < ·) (· < ·) (a.fileNumber.1, a.logPos) (b.fileNumber.1, b.logPos)) ∧
    ∀ a b : FileBinlogCoordinates, a.smallerThanOrEquals b = (a.smallerThan b || a.equals b) := by
  have nonneg : ∀ c ∈ coordinates, 0 ≤ c.fileNumber.1.toInt :=
    fun c member => fileNumber_nonneg_of_inSeries (series.inSeries c member)
  refine ⟨fun a _ => smallerThan_self a, ?_, ?_, ?_, smallerThanOrEquals_eq⟩
  · intro a ha b hb c hc
    exact smallerThan_trans_of_nonneg (nonneg a ha) (nonneg b hb) (nonneg c hc)
  · intro a ha b hb
    exact exactly_one_of_numbered (nonneg a ha) (nonneg b hb) (series.numbered a ha b hb)
  · intro a ha b hb
    exact smallerThan_iff_lex (nonneg a ha) (nonneg b hb)

/-- The last file before the number gains a digit, and the first after. -/
def rotation : Set FileBinlogCoordinates :=
  {⟨"mysql-bin.999999", 120⟩, ⟨"mysql-bin.1000000", 4⟩}

theorem rotation_series : Series "mysql-bin" rotation where
  inSeries := by
    rintro c (rfl | rfl)
    · exact ⟨"999999".toList, 999999, by decide, by decide, by decide⟩
    · exact ⟨"1000000".toList, 1000000, by decide, by decide, by decide⟩
  numbered := by
    rintro a (rfl | rfl) b (rfl | rfl) <;> decide

theorem smallerThan_rotation :
    [(⟨"mysql-bin.999999", 120⟩ : FileBinlogCoordinates).smallerThan ⟨"mysql-bin.1000000", 4⟩,
      (⟨"mysql-bin.999999", 120⟩ : FileBinlogCoordinates).equals ⟨"mysql-bin.1000000", 4⟩,
      (⟨"mysql-bin.1000000", 4⟩ : FileBinlogCoordinates).smallerThan ⟨"mysql-bin.999999", 120⟩].count true = 1 :=
  (smallerThan_series_total rotation_series).2.2.1 _ (Or.inl rfl) _ (Or.inr rfl)

/-! ## Stepping to the next and the previous file -/

/-- `newNumStr := fmt.Sprintf("%d", fileNum)` padded as the source pads it,
`strings.Repeat("0", numLen-len(newNumStr)) + newNumStr`; `none` is the panic of a negative
count. -/
def padFileNumber (numLen : Nat) (fileNum : Int64) : Option (List Char) :=
  let newNumStr := toString fileNum
  (Go.Strings.Repeat ['0'] ((numLen : Int) - newNumStr.utf8ByteSize)).map (· ++ newNumStr.toList)

/-- `tokens[len(tokens)-1] = newNumStr` and `strings.Join(tokens, ".")`, over the tokens of
`strings.Split(LogFile, ".")`. -/
def replaceFileNumber (logFile : String) (newNumStr : List Char) : String :=
  String.ofList (['.'].intercalate ((logFile.toList.splitOn '.').dropLast ++ [newNumStr]))

/-- `PreviousFileCoordinatesBy`: the file `offset` files back, at position 0. A file number
of 0, also the one `FileNumber` gives a name it cannot read, is the returned error; `none`
is a panic. -/
def previousFileCoordinatesBy (this : FileBinlogCoordinates) (offset : Int64) :
    Option (Except String FileBinlogCoordinates) :=
  if this.fileNumber.1 = 0 then some (.error "Log file number is zero, cannot detect previous file")
  else (padFileNumber this.fileNumber.2 (this.fileNumber.1 - offset)).map fun newNumStr =>
    .ok { logFile := replaceFileNumber this.logFile newNumStr, logPos := 0 }

def previousFileCoordinates (this : FileBinlogCoordinates) : Option (Except String FileBinlogCoordinates) :=
  this.previousFileCoordinatesBy 1

/-- `NextFileCoordinates`, which returns no error; `none` is a panic. -/
def nextFileCoordinates (this : FileBinlogCoordinates) : Option FileBinlogCoordinates :=
  (padFileNumber this.fileNumber.2 (this.fileNumber.1 + 1)).map fun newNumStr =>
    { logFile := replaceFileNumber this.logFile newNumStr, logPos := 0 }

/-- The decimal numeral of `value` with zeros in front up to `width` digits. -/
def paddedNumeral (width value : Nat) : List Char :=
  List.replicate (width - (Nat.toDigits 10 value).length) '0' ++ Nat.toDigits 10 value

theorem utf8ByteSize_ofList_of_ascii {l : List Char} (ascii : ∀ c ∈ l, c.val ≤ 127) :
    (String.ofList l).utf8ByteSize = l.length := by
  induction l with
  | nil => simp
  | cons a l ih =>
    rw [← List.singleton_append, String.ofList_append, String.utf8ByteSize_append, ← String.singleton_eq_ofList,
      String.utf8ByteSize_singleton, Char.utf8Size_eq_one_iff.mpr (ascii a List.mem_cons_self),
      ih fun c member => ascii c (List.mem_cons_of_mem a member)]
    simp [Nat.add_comm]

theorem isDigit_of_mem_paddedNumeral {width value : Nat} {c : Char} (member : c ∈ paddedNumeral width value) :
    c.isDigit := by
  rcases List.mem_append.mp member with zero | digit
  · rw [List.eq_of_mem_replicate zero]
    rfl
  · exact Nat.isDigit_of_mem_toDigits (by decide) (by decide) digit

theorem ascii_of_isDigit {c : Char} (digit : c.isDigit) : c.val ≤ 127 := by
  simp only [Char.isDigit, Bool.and_eq_true, decide_eq_true_eq] at digit
  have upper : c.val ≤ '9'.val := digit.2
  exact UInt32.le_trans upper (by decide)

theorem paddedNumeral_length {width value : Nat} (fits : (Nat.toDigits 10 value).length ≤ width) :
    (paddedNumeral width value).length = width := by
  simp [paddedNumeral]
  omega

theorem parseDecimal_paddedNumeral (width value : Nat) :
    Go.Strconv.parseDecimal (paddedNumeral width value) = some value := by
  have digits : (paddedNumeral width value).all Char.isDigit := by
    simpa using fun c member => isDigit_of_mem_paddedNumeral member
  have nonempty : paddedNumeral width value ≠ [] := by simp [paddedNumeral]
  unfold Go.Strconv.parseDecimal
  rw [if_pos ⟨nonempty, digits⟩]
  simp [paddedNumeral, Nat.ofDigitChars_append]

theorem dot_not_mem_paddedNumeral (width value : Nat) : '.' ∉ paddedNumeral width value :=
  fun dot => by simpa using isDigit_of_mem_paddedNumeral dot

/-- The tokens of a file name that ends in `.` and a token without `.`. -/
theorem splitOn_numbered (logPrefix : String) {digits : List Char} (noDot : '.' ∉ digits) :
    (logPrefix ++ "." ++ String.ofList digits).toList.splitOn '.' = logPrefix.toList.splitOn '.' ++ [digits] := by
  simp [List.splitOn_append_cons_self, List.splitOn_eq_singleton noDot]

theorem replaceFileNumber_numbered (logPrefix : String) {digits newNumStr : List Char} (noDot : '.' ∉ digits)
    (newNoDot : '.' ∉ newNumStr) :
    replaceFileNumber (logPrefix ++ "." ++ String.ofList digits) newNumStr =
      logPrefix ++ "." ++ String.ofList newNumStr := by
  have tokens : logPrefix.toList.splitOn '.' ++ [newNumStr] =
      (logPrefix ++ "." ++ String.ofList newNumStr).toList.splitOn '.' :=
    (splitOn_numbered logPrefix newNoDot).symm
  rw [replaceFileNumber, splitOn_numbered logPrefix noDot, List.dropLast_concat, tokens, List.intercalate_splitOn]
  exact String.ofList_toList

/-- `FileNumber` of a file `P.D` with `D` a padded numeral: its value and its width. -/
theorem fileNumber_paddedNumeral (logPrefix : String) {width value : Nat}
    (fits : (Nat.toDigits 10 value).length ≤ width) (small : value < 2 ^ 63) (logPos : Int64) :
    (⟨logPrefix ++ "." ++ String.ofList (paddedNumeral width value), logPos⟩ : FileBinlogCoordinates).fileNumber =
      (Int64.ofNat value, width) := by
  have lastToken : ((logPrefix ++ "." ++ String.ofList (paddedNumeral width value)).toList.splitOn '.').getLast
      (List.splitOn_ne_nil _ _) = paddedNumeral width value := by
    simp only [splitOn_numbered logPrefix (dot_not_mem_paddedNumeral width value), List.getLast_append_singleton]
  have bytes : (String.ofList (paddedNumeral width value)).utf8ByteSize = width := by
    rw [utf8ByteSize_ofList_of_ascii fun c member => ascii_of_isDigit (isDigit_of_mem_paddedNumeral member),
      paddedNumeral_length fits]
  unfold fileNumber
  dsimp only
  simp only [lastToken, Go.Strconv.Atoi,
    Go.Strconv.ParseInt_of_parseDecimal (parseDecimal_paddedNumeral width value) small, bytes]

theorem toString_int64_ofNat {value : Nat} (small : value < 2 ^ 63) :
    toString (Int64.ofNat value) = String.ofList (Nat.toDigits 10 value) := by
  show toString (Int64.ofNat value).toInt = _
  rw [Int64.toInt_ofNat_of_lt small]
  rfl

/-- The source's padding of a number that fits in `int64`: the padded numeral while the
digits fit in `numLen`, a panic once they do not. -/
theorem padFileNumber_ofNat (numLen : Nat) {value : Nat} (small : value < 2 ^ 63) :
    padFileNumber numLen (Int64.ofNat value) =
      if (Nat.toDigits 10 value).length ≤ numLen then some (paddedNumeral numLen value) else none := by
  have bytes : (toString (Int64.ofNat value)).utf8ByteSize = (Nat.toDigits 10 value).length := by
    rw [toString_int64_ofNat small]
    exact utf8ByteSize_ofList_of_ascii fun c member =>
      ascii_of_isDigit (Nat.isDigit_of_mem_toDigits (by decide) (by decide) member)
  unfold padFileNumber
  dsimp only
  rw [bytes]
  split
  · next fits =>
    rw [Go.Strings.Repeat_of_nonneg _ (by omega), toString_int64_ofNat small]
    simp [paddedNumeral]
  · next overflows =>
    rw [Go.Strings.Repeat_of_neg _ (by omega)]
    rfl

theorem width_pos {width n : Nat} (fits : (Nat.toDigits 10 n).length ≤ width) : 0 < width :=
  Nat.lt_of_lt_of_le Nat.length_toDigits_pos fits

/-- `NextFileCoordinates` of `P.D`, for a padded numeral `D` of value `n` and width `k`: the
numeral of `n + 1` in `k` digits while it fits, a panic once `n + 1` needs more digits. -/
theorem nextFileCoordinates_numbered (logPrefix : String) {width n : Nat}
    (fits : (Nat.toDigits 10 n).length ≤ width) (small : n + 1 < 2 ^ 63) (logPos : Int64) :
    nextFileCoordinates ⟨logPrefix ++ "." ++ String.ofList (paddedNumeral width n), logPos⟩ =
      if n + 1 < 10 ^ width then some ⟨logPrefix ++ "." ++ String.ofList (paddedNumeral width (n + 1)), 0⟩
      else none := by
  have successor : Int64.ofNat n + 1 = Int64.ofNat (n + 1) := (Int64.ofNat_add n 1).symm
  have digits : (Nat.toDigits 10 (n + 1)).length ≤ width ↔ n + 1 < 10 ^ width :=
    Nat.length_toDigits_le_iff (by decide) (width_pos fits)
  unfold nextFileCoordinates
  simp only [fileNumber_paddedNumeral logPrefix fits (by omega), successor, padFileNumber_ofNat width small]
  by_cases room : n + 1 < 10 ^ width
  · simp [digits.mpr room, room,
      replaceFileNumber_numbered logPrefix (dot_not_mem_paddedNumeral _ _) (dot_not_mem_paddedNumeral _ _)]
  · simp [mt digits.mp room, room]

/-- `PreviousFileCoordinatesBy(offset)` of `P.D`, for `offset ≤ n`: the numeral of
`n - offset` in `k` digits, which never needs more digits than `n`. -/
theorem previousFileCoordinatesBy_numbered (logPrefix : String) {width n offset : Nat}
    (fits : (Nat.toDigits 10 n).length ≤ width) (small : n < 2 ^ 63) (positive : 1 ≤ n) (behind : offset ≤ n)
    (logPos : Int64) :
    previousFileCoordinatesBy ⟨logPrefix ++ "." ++ String.ofList (paddedNumeral width n), logPos⟩
        (Int64.ofNat offset) =
      some (.ok ⟨logPrefix ++ "." ++ String.ofList (paddedNumeral width (n - offset)), 0⟩) := by
  have difference : Int64.ofNat n - Int64.ofNat offset = Int64.ofNat (n - offset) := by
    have sum : Int64.ofNat n = Int64.ofNat (n - offset) + Int64.ofNat offset := by
      rw [← Int64.ofNat_add, Nat.sub_add_cancel behind]
    rw [sum, Int64.add_sub_cancel]
  have nonzero : Int64.ofNat n ≠ 0 := by
    intro zero
    have value := Int64.toInt_ofNat_of_lt small
    rw [zero] at value
    simp at value
    omega
  have shorter : (Nat.toDigits 10 (n - offset)).length ≤ width := by
    have below := (Nat.length_toDigits_le_iff (by decide) (width_pos fits)).mp fits
    exact (Nat.length_toDigits_le_iff (by decide) (width_pos fits)).mpr (by omega)
  unfold previousFileCoordinatesBy
  simp only [fileNumber_paddedNumeral logPrefix fits small, if_neg nonzero, difference,
    padFileNumber_ofNat width (by omega : n - offset < 2 ^ 63), if_pos shorter, Option.map_some,
    replaceFileNumber_numbered logPrefix (dot_not_mem_paddedNumeral _ _) (dot_not_mem_paddedNumeral _ _)]

/-- The file after `P.D`, for a padded numeral `D` of value `n` and width `k`: `P.D'` with
`D'` the numeral of `n + 1` in `k` digits while it fits, a panic when `n + 1` needs more
digits. Going back one file from there gives `P.D`, and going back `offset` files from
`P.D`, for `offset ≤ n`, gives the numeral of `n - offset` in `k` digits. -/
theorem file_stepping (logPrefix : String) {width n : Nat} (fits : (Nat.toDigits 10 n).length ≤ width)
    (positive : 1 ≤ n) (small : n + 1 < 2 ^ 63) (logPos : Int64) :
    nextFileCoordinates ⟨logPrefix ++ "." ++ String.ofList (paddedNumeral width n), logPos⟩ =
        (if n + 1 < 10 ^ width then some ⟨logPrefix ++ "." ++ String.ofList (paddedNumeral width (n + 1)), 0⟩
        else none) ∧
      (n + 1 < 10 ^ width →
        previousFileCoordinates ⟨logPrefix ++ "." ++ String.ofList (paddedNumeral width (n + 1)), 0⟩ =
          some (.ok ⟨logPrefix ++ "." ++ String.ofList (paddedNumeral width n), 0⟩)) ∧
      ∀ offset, offset ≤ n →
        previousFileCoordinatesBy ⟨logPrefix ++ "." ++ String.ofList (paddedNumeral width n), logPos⟩
            (Int64.ofNat offset) =
          some (.ok ⟨logPrefix ++ "." ++ String.ofList (paddedNumeral width (n - offset)), 0⟩) := by
  refine ⟨nextFileCoordinates_numbered logPrefix fits small logPos, fun room => ?_,
    fun offset behind => previousFileCoordinatesBy_numbered logPrefix fits (by omega) positive behind logPos⟩
  have fitsNext : (Nat.toDigits 10 (n + 1)).length ≤ width :=
    (Nat.length_toDigits_le_iff (by decide) (width_pos fits)).mpr room
  have back := @previousFileCoordinatesBy_numbered logPrefix width (n + 1) 1 fitsNext small (by omega) (by omega) 0
  rw [Nat.add_sub_cancel] at back
  exact back

example : nextFileCoordinates ⟨"mysql-bin.000123", 4⟩ = some ⟨"mysql-bin.000124", 0⟩ := by decide

/-- The rotation the tests of `SmallerThan` reach: `mysql-bin.999999` has no next file, since
`1000000` needs a seventh digit and the padding count `6 - 7` makes `strings.Repeat` panic. -/
theorem next_after_999999_panics : nextFileCoordinates ⟨"mysql-bin.999999", 120⟩ = none := by
  have named : "mysql-bin.999999" = "mysql-bin" ++ "." ++ String.ofList (paddedNumeral 6 999999) := by decide
  rw [named, (file_stepping "mysql-bin" (by decide : (Nat.toDigits 10 999999).length ≤ 6) (by decide) (by decide) 120).1]
  decide

end FileBinlogCoordinates

end GhOst.Mysql
