import Mathlib.Data.List.Basic

/-! The `sql` package's column model: the metadata of one column, the dynamic
values of a binlog row image and their conversion into driver arguments, and
ordered column lists together with their name-to-ordinal maps. -/

namespace GhOst.Sql

/-- `ColumnType`: the subset of MySQL types that is mapped onto Go values. -/
inductive ColumnType where
  | unknown
  | timestamp
  | dateTime
  | enum
  | mediumInt
  | json
  | float
  | binary
  deriving DecidableEq, Repr

/-- `maxMediumintUnsigned`, the largest unsigned three-byte integer. -/
def maxMediumintUnsigned : Int32 := 16777215

structure TimezoneConversion where
  toTimezone : String
  deriving DecidableEq, Repr

structure CharacterSetConversion where
  toCharset : String
  fromCharset : String
  deriving DecidableEq, Repr

/-- `Column`, with Go's zero values as defaults. -/
structure Column where
  name : String
  isUnsigned : Bool := false
  isVirtual : Bool := false
  charset : String := ""
  type : ColumnType := .unknown
  enumValues : String := ""
  timezoneConversion : Option TimezoneConversion := none
  enumToTextConversion : Bool := false
  binaryOctetLength : Nat := 0
  charsetConversion : Option CharacterSetConversion := none
  -- the `COLUMN_TYPE` that `applyColumnTypes` copies from `information_schema`
  mySQLType : String := ""
  deriving DecidableEq, Repr

/-- The dynamic values of a row image (`interface{}` in the source). A Go string
is a byte sequence, so both strings and byte slices carry bytes; floats,
decimals and times pass through every conversion unchanged. -/
inductive GoValue where
  | nil
  | string (value : List UInt8)
  | bytes (value : List UInt8)
  | int8 (value : Int8)
  | int16 (value : Int16)
  | int32 (value : Int32)
  | int64 (value : Int64)
  | int (value : Int64)
  | uint8 (value : UInt8)
  | uint16 (value : UInt16)
  | uint32 (value : UInt32)
  | uint (value : UInt64)
  | passThrough (tag : Nat)
  deriving DecidableEq, Repr

/-- The bytes of a string or byte-slice argument, as `convertArg` reads them. -/
def GoValue.asBytes : GoValue → Option (List UInt8)
  | .string value => some value
  | .bytes value => some value
  | _ => none

/-- The decoders of `charsetEncodingMap` (`encoding.go`). -/
inductive CharsetEncoding where
  | windows1252
  | gbk
  deriving DecidableEq, Repr

def charsetEncodingMap (charset : String) : Option CharsetEncoding :=
  if charset = "latin1" then some .windows1252
  else if charset = "gbk" then some .gbk
  else none

section Conversion

-- the vendored `golang.org/x/text` decoders, from the named charset to UTF-8
variable (decodeBytes : CharsetEncoding → List UInt8 → List UInt8)

/-- `Column.convertArg`: charset decoding and binary zero-padding of byte
arguments, and the unsigned reinterpretation of signed integers. -/
def Column.convertArg (column : Column) (arg : GoValue) (isUniqueKeyColumn : Bool) : GoValue :=
  match arg.asBytes with
  | some arg2Bytes =>
    let decoded :=
      if column.charset ≠ "" ∧ column.charsetConversion = none then GoValue.bytes arg2Bytes
      else match charsetEncodingMap column.charset with
        | some encoding => .string (decodeBytes encoding arg2Bytes)
        | none => arg
    -- a unique-key binary value is padded with zero bytes to its octet length
    if column.type = .binary ∧ isUniqueKeyColumn ∧ arg2Bytes.length < column.binaryOctetLength then
      .string (arg2Bytes ++ List.replicate (column.binaryOctetLength - arg2Bytes.length) 0)
    else decoded
  | none =>
    if column.isUnsigned then
      match arg with
      | .int8 i => .uint8 i.toUInt8
      | .int16 i => .uint16 i.toUInt16
      | .int32 i =>
        if column.type = .mediumInt then
          if 0 ≤ i then .int32 i else .uint32 (maxMediumintUnsigned + i + 1).toUInt32
        else .uint32 i.toUInt32
      | .int64 i => .string (toString i.toUInt64.toNat).toUTF8.toList
      | .int i => .uint i.toUInt64
      | _ => arg
    else arg

end Conversion

/-- `ColumnsMap`: a Go map from a column name to its ordinal position. -/
def ColumnsMap := String → Option Nat

def newEmptyColumnsMap : ColumnsMap := fun _ => none

/-- `NewColumnsMap`: each column in order stores its index, so a later
duplicate name overwrites an earlier one. -/
def newColumnsMap (orderedColumns : List Column) : ColumnsMap :=
  orderedColumns.zipIdx.foldl
    (fun (columnsMap : ColumnsMap) entry name =>
      if name = entry.1.name then some entry.2 else columnsMap name)
    newEmptyColumnsMap

def newColumns (names : List String) : List Column :=
  names.map fun name => { name }

/-- `ColumnList`: an ordered list of columns and its ordinal map. -/
structure ColumnList where
  columns : List Column
  ordinals : ColumnsMap

def newColumnList (names : List String) : ColumnList :=
  { columns := newColumns names, ordinals := newColumnsMap (newColumns names) }

/-- `ParseColumnList` splits a comma-delimited list of names. -/
def parseColumnList (names : String) : ColumnList :=
  { columns := newColumns (names.splitOn ","),
    ordinals := newColumnsMap (newColumns (names.splitOn ",")) }

namespace ColumnList

def names (list : ColumnList) : List String :=
  list.columns.map Column.name

def len (list : ColumnList) : Nat :=
  list.columns.length

/-- A Go map read `Ordinals[name]`: an absent name reads as `0`. -/
def ordinal (list : ColumnList) (name : String) : Nat :=
  (list.ordinals name).getD 0

/-- `GetColumn`; an ordinal past the end, where the source would panic, gives `none`. -/
def getColumn (list : ColumnList) (columnName : String) : Option Column :=
  (list.ordinals columnName).bind fun ordinal => list.columns[ordinal]?

/-- `IsSubsetOf`: every name of this list is a key of the other list's map. -/
def isSubsetOf (list other : ColumnList) : Bool :=
  list.columns.all fun column => (other.ordinals column.name).isSome

/-- `FilterBy` keeps the original ordinal map. -/
def filterBy (list : ColumnList) (keep : Column → Bool) : ColumnList :=
  { columns := list.columns.filter keep, ordinals := list.ordinals }

@[simp] theorem names_length (list : ColumnList) : list.names.length = list.len := by
  simp [names, len]

@[simp] theorem newColumnList_names (names : List String) :
    (newColumnList names).names = names := by
  simp [newColumnList, ColumnList.names, newColumns, Function.comp_def]

@[simp] theorem newColumnList_len (names : List String) :
    (newColumnList names).len = names.length := by
  simp [newColumnList, len, newColumns]

theorem isSubsetOf_iff (list other : ColumnList) :
    list.isSubsetOf other = true ↔ ∀ column ∈ list.columns, ∃ i, other.ordinals column.name = some i := by
  simp [isSubsetOf, Option.isSome_iff_exists]

/-! ### The ordinal map of a list -/

/-- The ordinal map indexes the list's own columns: each column's name maps to its
position, and each name in the map names the column at its position. -/
structure OrdinalsAgree (list : ColumnList) : Prop where
  own : ∀ i (inside : i < list.columns.length), list.ordinals list.columns[i].name = some i
  named : ∀ name i, list.ordinals name = some i → ∃ inside : i < list.columns.length, list.columns[i].name = name

/-- Under the invariant no two positions hold one name. -/
theorem OrdinalsAgree.index_eq {list : ColumnList} (agree : list.OrdinalsAgree) {i j : Nat}
    (insideI : i < list.columns.length) (insideJ : j < list.columns.length)
    (same : list.columns[i].name = list.columns[j].name) : i = j := by
  have first := agree.own i insideI
  rw [same, agree.own j insideJ] at first
  exact (Option.some.inj first).symm

/-- Under the invariant `GetColumn` returns the column of that name, and `nil` when the list
has none. -/
theorem getColumn_of_ordinalsAgree {list : ColumnList} (agree : list.OrdinalsAgree) (name : String) :
    list.getColumn name = list.columns.find? (·.name = name) := by
  unfold getColumn
  cases found : list.ordinals name with
  | none =>
    -- a column of that name would be in the map
    rw [Option.bind_none]
    symm
    rw [List.find?_eq_none]
    intro column member named
    obtain ⟨i, inside, rfl⟩ := List.getElem_of_mem member
    have own := agree.own i inside
    rw [of_decide_eq_true named, found] at own
    cases own
  | some i =>
    obtain ⟨inside, named⟩ := agree.named name i found
    rw [Option.bind_some, List.getElem?_eq_getElem inside]
    symm
    rw [List.find?_eq_some_iff_getElem]
    refine ⟨by simpa using named, i, inside, rfl, fun j earlier => ?_⟩
    have different : list.columns[j].name ≠ name := fun same =>
      Nat.ne_of_lt earlier (agree.index_eq _ inside (same.trans named.symm))
    simpa using different

/-- `FilterBy` keeps the invariant exactly when it keeps every column: a dropped column's
name stays in the map, at a position that now holds another column or none. -/
theorem filterBy_ordinalsAgree_iff {list : ColumnList} (agree : list.OrdinalsAgree) (keep : Column → Bool) :
    (list.filterBy keep).OrdinalsAgree ↔ ∀ column ∈ list.columns, keep column = true := by
  constructor
  · intro filtered column member
    by_contra dropped
    obtain ⟨i, inside, rfl⟩ := List.getElem_of_mem member
    obtain ⟨insideFiltered, named⟩ := filtered.named _ i (agree.own i inside)
    have kept := List.mem_filter.mp (List.getElem_mem insideFiltered)
    obtain ⟨j, insideJ, atJ⟩ := List.getElem_of_mem kept.1
    have same : j = i := agree.index_eq insideJ inside (by rw [atJ]; exact named)
    subst same
    exact dropped (atJ ▸ kept.2)
  · intro all
    have unchanged : list.filterBy keep = list := by
      cases list
      simp [filterBy, List.filter_eq_self.mpr all]
    rw [unchanged]
    exact agree

end ColumnList

theorem foldl_columnsMap_of_not_mem {entries : List (Column × Nat)} {name : String}
    (absent : ∀ entry ∈ entries, entry.1.name ≠ name) (start : String → Option Nat) :
    (entries.foldl (fun (columnsMap : String → Option Nat) entry name =>
      if name = entry.1.name then some entry.2 else columnsMap name) start) name = start name := by
  induction entries generalizing start with
  | nil => rfl
  | cons first rest ih =>
    simp only [List.foldl_cons, ih fun entry member => absent entry (List.mem_cons_of_mem _ member)]
    have different : name ≠ first.1.name := fun same => absent first List.mem_cons_self same.symm
    simp [different]

/-- `NewColumnsMap`'s loop at one name: the index of an entry of that name, when the names
are distinct, and the map it started from otherwise. -/
theorem foldl_columnsMap_of_mem {entries : List (Column × Nat)} (distinct : (entries.map (·.1.name)).Nodup)
    {entry : Column × Nat} (member : entry ∈ entries) (start : String → Option Nat) :
    (entries.foldl (fun (columnsMap : String → Option Nat) entry name =>
      if name = entry.1.name then some entry.2 else columnsMap name) start) entry.1.name = some entry.2 := by
  induction entries generalizing start with
  | nil => cases member
  | cons first rest ih =>
    rw [List.map_cons, List.nodup_cons] at distinct
    simp only [List.foldl_cons]
    rcases List.mem_cons.mp member with rfl | later
    · -- the later entries have other names and leave this one as it was stored
      simp only [foldl_columnsMap_of_not_mem fun other inRest same =>
        distinct.1 (List.mem_map.mpr ⟨other, inRest, same⟩)]
      simp
    · exact ih distinct.2 later _

/-- The map `NewColumnsMap` builds for distinct names indexes its columns. -/
theorem newColumnsMap_ordinalsAgree {columns : List Column} (distinct : (columns.map Column.name).Nodup) :
    ({ columns, ordinals := newColumnsMap columns } : ColumnList).OrdinalsAgree := by
  have entriesDistinct : (columns.zipIdx.map (·.1.name)).Nodup := by
    have names : columns.zipIdx.map (·.1.name) = columns.map Column.name := by
      rw [show (fun entry : Column × Nat => entry.1.name) = Column.name ∘ Prod.fst from rfl, ← List.map_map,
        List.zipIdx_map_fst]
    rw [names]
    exact distinct
  constructor
  · intro i inside
    have member : (columns[i], i) ∈ columns.zipIdx := List.mem_zipIdx_iff_getElem?.mpr (by simp [inside])
    exact foldl_columnsMap_of_mem entriesDistinct member newEmptyColumnsMap
  · intro name i found
    by_cases present : ∃ entry ∈ columns.zipIdx, entry.1.name = name
    · obtain ⟨entry, member, rfl⟩ := present
      have stored := foldl_columnsMap_of_mem entriesDistinct member newEmptyColumnsMap
      change newColumnsMap columns entry.1.name = some i at found
      have same : some i = some entry.2 := found.symm.trans stored
      rw [Option.some.injEq] at same
      subst same
      have atIndex := List.mem_zipIdx_iff_getElem?.mp member
      obtain ⟨inside, atI⟩ := List.getElem?_eq_some_iff.mp atIndex
      exact ⟨inside, by rw [atI]⟩
    · push Not at present
      change newColumnsMap columns name = some i at found
      have empty : some i = newEmptyColumnsMap name :=
        found.symm.trans (foldl_columnsMap_of_not_mem present newEmptyColumnsMap)
      cases empty

/-- The lists `NewColumnList` and `ParseColumnList` build from distinct names keep the
ordinal invariant, `GetColumn` on them finds the column of a name or none, and a list that
`FilterBy` derives from them keeps the invariant exactly when no column is dropped. -/
theorem column_list_ordinals (list : ColumnList)
    (built : (∃ names : List String, names.Nodup ∧ list = newColumnList names) ∨
      ∃ names : String, (names.splitOn ",").Nodup ∧ list = parseColumnList names) :
    list.OrdinalsAgree ∧ (∀ name, list.getColumn name = list.columns.find? (·.name = name)) ∧
      ∀ keep, (list.filterBy keep).OrdinalsAgree ↔ ∀ column ∈ list.columns, keep column = true := by
  -- `ParseColumnList` is `NewColumnList` of the comma-separated names
  obtain ⟨names, distinct, rfl⟩ : ∃ names : List String, names.Nodup ∧ list = newColumnList names := by
    rcases built with fromNames | ⟨names, distinct, rfl⟩
    · exact fromNames
    · exact ⟨names.splitOn ",", distinct, rfl⟩
  have agree : (newColumnList names).OrdinalsAgree :=
    newColumnsMap_ordinalsAgree (by simpa [newColumns, Function.comp_def] using distinct)
  exact ⟨agree, ColumnList.getColumn_of_ordinalsAgree agree, ColumnList.filterBy_ordinalsAgree_iff agree⟩

theorem column_list_ordinals_two_columns :
    ["id", "name"].Nodup ∧ (newColumnList ["id", "name"]).OrdinalsAgree :=
  ⟨by decide, (column_list_ordinals _ (.inl ⟨_, by decide, rfl⟩)).1⟩

/-- Filtering `a` out of the list of `a, b` keeps the map of both: `b` still maps to 1 and
`a` to 0, so `GetColumn a` returns the column `b` and `GetColumn b` reads past the end,
where the source panics. -/
theorem filterBy_misplaces_columns :
    ((newColumnList ["a", "b"]).filterBy (·.name ≠ "a")).ordinals "b" = some 1 ∧
      ((newColumnList ["a", "b"]).filterBy (·.name ≠ "a")).columns = [{ name := "b" }] ∧
      ((newColumnList ["a", "b"]).filterBy (·.name ≠ "a")).getColumn "a" = some { name := "b" } ∧
      ((newColumnList ["a", "b"]).filterBy (·.name ≠ "a")).getColumn "b" = none := by
  decide

/-- `UniqueKey`: a key's name, its name in the ghost table, and its columns. -/
structure UniqueKey where
  name : String
  nameInGhostTable : String := ""
  columns : ColumnList

end GhOst.Sql
