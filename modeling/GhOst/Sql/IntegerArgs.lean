import GhOst.Sql.Types
import GhOst.Go.Strconv
import GhOst.Lib.Bytes
import Mathlib.Data.Nat.Bitwise

/-! The integer arguments of the DML path. The vendored go-mysql decoders
(`parse_binary.go`) read every integer column of a row image as a signed Go integer
of the column's width, a MEDIUMINT sign-extended from 24 bits into an `int32`, and
`convertArg` (`types.go`) reinterprets the value of an unsigned column. The value
bound then denotes the stored integer at every width, `2^(w-1)` and `2^w - 1`
included, which is what the row copy's `INSERT ... SELECT` writes. -/

namespace GhOst.Sql

/-- The widths of MySQL's integer types: TINYINT, SMALLINT, MEDIUMINT, INT, BIGINT. -/
inductive IntegerWidth where
  | w8
  | w16
  | w24
  | w32
  | w64
  deriving DecidableEq, Repr

def IntegerWidth.bits : IntegerWidth → Nat
  | .w8 => 8
  | .w16 => 16
  | .w24 => 24
  | .w32 => 32
  | .w64 => 64

/-- `ParseBinaryInt24`, given the value `ParseBinaryUint24` assembles from the three
bytes: bit 23 set extends the sign through the top byte. -/
def parseBinaryInt24 (u32 : UInt32) : Int32 :=
  (if u32 &&& 0x00800000 != 0 then u32 ||| 0xFF000000 else u32).toInt32

/-- The row image's value of an integer column storing `u`: the decoder reads the
little-endian bytes unsigned and converts them to the signed type of the width
(`ParseBinaryInt8`, `ParseBinaryInt16`, `ParseBinaryInt24`, `ParseBinaryInt32`,
`ParseBinaryInt64`). -/
def decodeInteger : IntegerWidth → Nat → GoValue
  | .w8, u => .int8 (UInt8.ofNat u).toInt8
  | .w16, u => .int16 (UInt16.ofNat u).toInt16
  | .w24, u => .int32 (parseBinaryInt24 (UInt32.ofNat u))
  | .w32, u => .int32 (UInt32.ofNat u).toInt32
  | .w64, u => .int64 (UInt64.ofNat u).toInt64

/-- The integer MySQL stores for a bound argument: a Go integer's value, and for a
string or byte slice the decimal number its text spells. -/
def GoValue.denotedInteger : GoValue → Option Int
  | .int8 i => some i.toInt
  | .int16 i => some i.toInt
  | .int32 i => some i.toInt
  | .int64 i => some i.toInt
  | .int i => some i.toInt
  | .uint8 i => some i.toNat
  | .uint16 i => some i.toNat
  | .uint32 i => some i.toNat
  | .uint i => some i.toNat
  | .string text | .bytes text =>
    (String.fromUTF8? ⟨text.toArray⟩).bind fun text => (Go.Strconv.parseDecimal text.toList).map Int.ofNat
  | _ => none

/-- Go's `int32(u32)`: the bits read in two's complement. -/
theorem toInt_toInt32 (x : UInt32) :
    x.toInt32.toInt = if 2 * x.toNat < 2 ^ 32 then (x.toNat : Int) else x.toNat - 2 ^ 32 :=
  BitVec.toInt_eq_toNat_cond x.toBitVec

/-- `ParseBinaryInt24` reads the 24-bit pattern `u` in two's complement. -/
theorem parseBinaryInt24_toInt {u : Nat} (stored : u < 2 ^ 24) :
    (parseBinaryInt24 (UInt32.ofNat u)).toInt = if u < 2 ^ 23 then (u : Int) else u - 2 ^ 24 := by
  have read : (UInt32.ofNat u).toNat = u := by
    rw [UInt32.toNat_ofNat']
    exact Nat.mod_eq_of_lt (by omega)
  have signBit : (UInt32.ofNat u &&& 0x00800000).toNat = (u.testBit 23).toNat * 2 ^ 23 := by
    rw [UInt32.toNat_and, read]
    exact Nat.and_two_pow u 23
  unfold parseBinaryInt24
  by_cases low : u < 2 ^ 23
  · -- bit 23 clear: the pattern is the value
    have clear : (UInt32.ofNat u &&& 0x00800000 != 0) = false := by
      rw [Nat.testBit_lt_two_pow low] at signBit
      have zero : UInt32.ofNat u &&& 0x00800000 = 0 := UInt32.toNat_inj.mp signBit
      simp [zero]
    simp only [clear, Bool.false_eq_true, if_false]
    rw [toInt_toInt32, read, if_pos low, if_pos (by omega)]
  · -- bit 23 set: the top byte is filled with ones, and the value is negative
    have set : (UInt32.ofNat u &&& 0x00800000 != 0) = true := by
      rw [Nat.testBit_of_two_pow_le_and_two_pow_add_one_gt (by omega) stored] at signBit
      have nonzero : UInt32.ofNat u &&& 0x00800000 ≠ 0 := by
        intro zero
        rw [zero] at signBit
        simp at signBit
      simpa using nonzero
    have filled : (UInt32.ofNat u ||| 0xFF000000).toNat = 2 ^ 24 * 255 + u := by
      rw [UInt32.toNat_or, read, Nat.two_pow_add_eq_or_of_lt stored, Nat.lor_comm]
      rfl
    rw [set, if_pos rfl, toInt_toInt32, filled, if_neg (by omega), if_neg low]
    push_cast
    omega

/-- The text of `FormatUint(n, 10)` spells `n`. -/
theorem denotedInteger_toString (n : Nat) : (GoValue.string (toString n).toUTF8.toList).denotedInteger = some n := by
  have decoded : String.fromUTF8? ⟨(toString n).toUTF8.toList.toArray⟩ = some (toString n) := by
    rw [Lib.byteArray_mk_toList, Lib.fromUTF8?_toUTF8]
  have digits : (toString n).toList = Nat.toDigits 10 n := Nat.toList_repr
  simp only [GoValue.denotedInteger, decoded, Option.bind_some, digits, Go.Strconv.parseDecimal_toDigits]
  rfl

theorem decodeInteger_asBytes (width : IntegerWidth) (u : Nat) : (decodeInteger width u).asBytes = none := by
  cases width <;> rfl

section Conversion

variable (decodeBytes : CharsetEncoding → List UInt8 → List UInt8)

/-- A signed column binds an integer as the binlog library decoded it. -/
theorem convertArg_of_signed {column : Column} (signed : column.isUnsigned = false) {arg : GoValue}
    (integer : arg.asBytes = none) (isUniqueKeyColumn : Bool) :
    column.convertArg decodeBytes arg isUniqueKeyColumn = arg := by
  simp [Column.convertArg, integer, signed]

/-- An unsigned MEDIUMINT column keeps a non-negative `int32` and moves a negative one
up by `2^24` (`maxMediumintUnsigned + i + 1`). -/
theorem convertArg_mediumInt_denotedInteger {column : Column} (unsigned : column.isUnsigned = true)
    (medium : column.type = .mediumInt) {i : Int32} (range : -2 ^ 24 ≤ i.toInt) (isUniqueKeyColumn : Bool) :
    (column.convertArg decodeBytes (.int32 i) isUniqueKeyColumn).denotedInteger =
      some (if 0 ≤ i.toInt then i.toInt else i.toInt + 2 ^ 24) := by
  simp only [Column.convertArg, GoValue.asBytes, unsigned, medium, if_true]
  by_cases nonneg : 0 ≤ i
  · have signed : 0 ≤ i.toInt := Int32.le_iff_toInt_le.mp nonneg
    simp [nonneg, signed, GoValue.denotedInteger]
  · have negative : ¬ 0 ≤ i.toInt := fun signed => nonneg (Int32.le_iff_toInt_le.mpr signed)
    -- no overflow in `maxMediumintUnsigned + i + 1`: the sum lies in [0, 2^24)
    have sum : (maxMediumintUnsigned + i + 1).toInt = i.toInt + 2 ^ 24 := by
      have maxValue : maxMediumintUnsigned.toInt = 16777215 := rfl
      have inner : (16777215 + i.toInt).bmod (2 ^ 32) = 16777215 + i.toInt :=
        Int.bmod_eq_of_le (by omega) (by omega)
      rw [Int32.toInt_add, Int32.toInt_add, maxValue, Int32.toInt_one, inner]
      rw [Int.bmod_eq_of_le (by omega) (by omega)]
      omega
    have lifted : 0 ≤ maxMediumintUnsigned + i + 1 := by
      rw [Int32.le_iff_toInt_le, sum]
      simp only [Int32.toInt_zero]
      omega
    simp only [nonneg, if_false, GoValue.denotedInteger, negative, Int32.toNat_toUInt32_of_le lifted,
      ← Int32.toNat_toInt, sum]
    congr 1
    omega

/-- An unsigned column of each width binds a value that denotes the stored integer. -/
theorem convertArg_decodeInteger_of_unsigned {column : Column} (unsigned : column.isUnsigned = true)
    {width : IntegerWidth} (classified : column.type = .mediumInt ↔ width = .w24) {u : Nat}
    (stored : u < 2 ^ width.bits) (isUniqueKeyColumn : Bool) :
    (column.convertArg decodeBytes (decodeInteger width u) isUniqueKeyColumn).denotedInteger = some (u : Int) := by
  cases width with
  | w8 =>
    simp only [decodeInteger, Column.convertArg, GoValue.asBytes, unsigned, if_true, UInt8.toUInt8_toInt8,
      GoValue.denotedInteger, UInt8.toNat_ofNat']
    rw [Nat.mod_eq_of_lt (show u < 2 ^ 8 from stored)]
  | w16 =>
    simp only [decodeInteger, Column.convertArg, GoValue.asBytes, unsigned, if_true, UInt16.toUInt16_toInt16,
      GoValue.denotedInteger, UInt16.toNat_ofNat']
    rw [Nat.mod_eq_of_lt (show u < 2 ^ 16 from stored)]
  | w24 =>
    have stored24 : u < 2 ^ 24 := stored
    rw [decodeInteger, convertArg_mediumInt_denotedInteger decodeBytes unsigned (classified.mpr rfl)
      (by rw [parseBinaryInt24_toInt stored24]; split <;> omega), parseBinaryInt24_toInt stored24]
    congr 1
    -- the two branches of the sign extension, and of convertArg after it
    by_cases low : u < 2 ^ 23
    · rw [if_pos low, if_pos (by omega)]
    · rw [if_neg low, if_neg (by omega)]
      omega
  | w32 =>
    have plain : column.type ≠ .mediumInt := fun medium => nomatch classified.mp medium
    simp only [decodeInteger, Column.convertArg, GoValue.asBytes, unsigned, plain, if_true, if_false,
      UInt32.toUInt32_toInt32, GoValue.denotedInteger, UInt32.toNat_ofNat']
    rw [Nat.mod_eq_of_lt (show u < 2 ^ 32 from stored)]
  | w64 =>
    have value : (UInt64.ofNat u).toNat = u := by
      rw [UInt64.toNat_ofNat']
      exact Nat.mod_eq_of_lt stored
    simp only [decodeInteger, Column.convertArg, GoValue.asBytes, unsigned, if_true, UInt64.toUInt64_toInt64,
      value]
    exact denotedInteger_toString u

/-- The DML path binds the integer the row copy writes: for an unsigned column of each
width, classified as `applyColumnTypes` does, the converted value denotes every stored
integer of the width; a signed column binds the decoded value as it is. -/
theorem convertArg_decodeInteger (column : Column) (width : IntegerWidth) (u : Nat) (isUniqueKeyColumn : Bool) :
    (column.isUnsigned = true → (column.type = .mediumInt ↔ width = .w24) → u < 2 ^ width.bits →
      (column.convertArg decodeBytes (decodeInteger width u) isUniqueKeyColumn).denotedInteger = some (u : Int)) ∧
    (column.isUnsigned = false →
      column.convertArg decodeBytes (decodeInteger width u) isUniqueKeyColumn = decodeInteger width u) :=
  ⟨fun unsigned classified stored =>
      convertArg_decodeInteger_of_unsigned decodeBytes unsigned classified stored isUniqueKeyColumn,
    fun signed => convertArg_of_signed decodeBytes signed (decodeInteger_asBytes width u) isUniqueKeyColumn⟩

end Conversion

/-- An unsigned MEDIUMINT storing `2^23`, the first value the decoder reads as negative,
binds `2^23`. -/
theorem mediumint_sign_boundary_binds_stored :
    (({ name := "id", isUnsigned := true, type := .mediumInt } : Column).convertArg (fun _ bytes => bytes)
      (decodeInteger .w24 8388608) false).denotedInteger = some 8388608 :=
  (convertArg_decodeInteger (fun _ bytes => bytes) { name := "id", isUnsigned := true, type := .mediumInt }
    .w24 8388608 false).1 rfl (by decide) (by decide)

end GhOst.Sql
