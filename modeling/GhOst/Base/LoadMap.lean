import GhOst.Go.Strconv
import GhOst.Go.Strings
import GhOst.Lib.Maps
import Mathlib.Data.Multiset.Sort
import Mathlib.Data.String.Basic
import Mathlib.Order.Lattice

/-! `base.LoadMap`, the thresholds of `--max-load` and `--critical-load`: a Go
`map[string]int64` from a status variable to its threshold. `ParseLoadMap` reads
`name=value` conditions separated by commas; `String` prints a token `name=value` per
entry, sorted, joined by commas.

Printing a map whose names are non-empty and hold neither `,` nor `=` and parsing the text
back gives the map; every name `ParseLoadMap` accepts is such a name, so a parsed map is a
fixed point of printing and parsing, and the printed text is one text per map. -/

namespace GhOst.Base

/-- `LoadMap`. -/
abbrev LoadMap := Finmap fun _ : String => Int64

namespace LoadMap

/-- One condition of `ParseLoadMap`: `strings.Split` on `=` must give exactly two tokens, a
non-empty status variable and an `int64`. -/
def parseLoadCondition (loadCondition : String) : Except String (String × Int64) :=
  match (loadCondition.toList.splitOn '=').map String.ofList with
  | [name, value] =>
    if name = "" then .error ("Error parsing status variable in load condition: " ++ loadCondition)
    else
      match Go.Strconv.ParseInt value with
      | some n => .ok (name, n)
      | none => .error ("Error parsing numeric value in load condition: " ++ loadCondition)
  | _ => .error ("Error parsing load condition: " ++ loadCondition)

/-- The loop of `ParseLoadMap`: each condition is parsed and assigned; the first error ends
the loop, and the map filled so far is returned beside it. -/
def addLoadConditions : LoadMap → List String → LoadMap × Option String
  | result, [] => (result, none)
  | result, loadCondition :: rest =>
    match parseLoadCondition loadCondition with
    | .ok (name, n) => addLoadConditions (result.insert name n) rest
    | .error err => (result, some err)

/-- `ParseLoadMap`: the map and the error it returns. -/
def parseLoadMap (loadList : String) : LoadMap × Option String :=
  if loadList = "" then (∅, none)
  else addLoadConditions ∅ ((loadList.toList.splitOn ',').map String.ofList)

/-- The token `String` prints for an entry, `fmt.Sprintf("%s=%d", key, val)`. -/
def loadToken (entry : Σ _ : String, Int64) : String :=
  entry.1 ++ "=" ++ toString entry.2

/-- `String`. The order in which `range` visits the map is left out: the entries are a
multiset, and `sort.Strings` makes one list of their tokens. Lean's order on strings is
the order of their runes, which is the order of their UTF-8 bytes that Go compares. -/
def string (this : LoadMap) : String :=
  ",".intercalate ((this.entries.map loadToken).sort (· ≤ ·))

/-- A status variable that `String` prints so that `ParseLoadMap` reads it back. -/
def Readable (name : String) : Prop :=
  name ≠ "" ∧ ',' ∉ name.toList ∧ '=' ∉ name.toList

instance (name : String) : Decidable (Readable name) :=
  inferInstanceAs (Decidable (_ ∧ _ ∧ _))

/-! ## One condition -/

theorem loadToken_toList (entry : Σ _ : String, Int64) :
    (loadToken entry).toList = ['='].intercalate [entry.1.toList, (toString entry.2).toList] := by
  simp [loadToken]

theorem equals_not_mem_toString (value : Int64) : '=' ∉ (toString value).toList := by
  intro member
  rcases Go.Strconv.mem_toString_int64 member with minus | digit
  · exact absurd minus (by decide)
  · exact absurd digit (by decide)

theorem comma_not_mem_loadToken {entry : Σ _ : String, Int64} (readable : Readable entry.1) :
    ',' ∉ (loadToken entry).toList := by
  rw [loadToken_toList]
  intro member
  simp only [List.intercalate_cons_cons, List.intercalate_singleton, List.mem_append, List.mem_singleton] at member
  rcases member with (inName | equals) | inValue
  · exact readable.2.1 inName
  · exact absurd equals (by decide)
  · rcases Go.Strconv.mem_toString_int64 inValue with minus | digit
    · exact absurd minus (by decide)
    · exact absurd digit (by decide)

/-- The token of an entry with a readable name reads back as the entry. -/
theorem parseLoadCondition_loadToken {entry : Σ _ : String, Int64} (readable : Readable entry.1) :
    parseLoadCondition (loadToken entry) = .ok (entry.1, entry.2) := by
  have apart : ∀ piece ∈ [entry.1.toList, (toString entry.2).toList], '=' ∉ piece := by
    simpa using ⟨readable.2.2, equals_not_mem_toString entry.2⟩
  have tokens : ((loadToken entry).toList.splitOn '=').map String.ofList = [entry.1, toString entry.2] := by
    rw [loadToken_toList, List.splitOn_intercalate '=' apart (by simp)]
    simp
  rw [parseLoadCondition, tokens]
  simp [readable.1, Go.Strconv.ParseInt_toString]

/-- What `parseLoadCondition` checked of a condition it accepts. -/
theorem parseLoadCondition_ok {loadCondition name : String} {n : Int64}
    (parsed : parseLoadCondition loadCondition = .ok (name, n)) :
    ∃ value, (loadCondition.toList.splitOn '=').map String.ofList = [name, value] ∧ name ≠ "" ∧
      Go.Strconv.ParseInt value = some n := by
  unfold parseLoadCondition at parsed
  split at parsed
  · rename_i first value tokens
    split at parsed
    · cases parsed
    · rename_i nonempty
      split at parsed
      · rename_i read
        cases parsed
        exact ⟨value, tokens, nonempty, read⟩
      · cases parsed
  · cases parsed

/-- A condition `ParseLoadMap` accepts names a readable status variable, when it has no
comma. -/
theorem readable_of_parseLoadCondition {loadCondition name : String} {n : Int64}
    (parsed : parseLoadCondition loadCondition = .ok (name, n)) (noComma : ',' ∉ loadCondition.toList) :
    Readable name := by
  obtain ⟨value, tokens, nonempty, -⟩ := parseLoadCondition_ok parsed
  -- the name is the first piece of the split on `=`
  have piece : name.toList ∈ loadCondition.toList.splitOn '=' := by
    have member : name ∈ (loadCondition.toList.splitOn '=').map String.ofList := by simp [tokens]
    obtain ⟨chars, inSplit, spelled⟩ := List.mem_map.mp member
    simpa [← spelled] using inSplit
  obtain ⟨noEquals, inCondition⟩ := Go.Strings.sep_not_mem_of_mem_splitOn piece
  exact ⟨nonempty, fun comma => noComma (inCondition ',' comma), noEquals⟩

/-! ## The loop -/

/-- The loop over the tokens of entries with readable names assigns every entry. -/
theorem addLoadConditions_loadTokens (result : LoadMap) {entries : List (Σ _ : String, Int64)}
    (readable : ∀ entry ∈ entries, Readable entry.1) :
    addLoadConditions result (entries.map loadToken) = (Lib.assignAll result entries, none) := by
  induction entries generalizing result with
  | nil => rfl
  | cons entry entries ih =>
    have rest : ∀ other ∈ entries, Readable other.1 := fun other member =>
      readable other (List.mem_cons_of_mem entry member)
    simp only [List.map_cons, addLoadConditions, parseLoadCondition_loadToken (readable entry List.mem_cons_self)]
    rw [ih _ rest, Lib.assignAll_cons]

/-- Every name the loop adds without an error is readable, when no condition has a comma. -/
theorem readable_of_addLoadConditions {result : LoadMap} {conditions : List String}
    (noComma : ∀ condition ∈ conditions, ',' ∉ condition.toList)
    (accepted : (addLoadConditions result conditions).2 = none) (readable : ∀ name ∈ result, Readable name) :
    ∀ name ∈ (addLoadConditions result conditions).1, Readable name := by
  induction conditions generalizing result with
  | nil => simpa [addLoadConditions] using readable
  | cons condition conditions ih =>
    unfold addLoadConditions at accepted ⊢
    split at accepted
    next name n parsed =>
      have named := readable_of_parseLoadCondition parsed (noComma condition List.mem_cons_self)
      refine ih (fun other member => noComma other (List.mem_cons_of_mem condition member)) accepted ?_
      intro other member
      rcases Finmap.mem_insert.mp member with rfl | earlier
      · exact named
      · exact readable other earlier
    · cases accepted

/-! ## The printed text -/

theorem mem_of_mem_entries {this : LoadMap} {entry : Σ _ : String, Int64} (member : entry ∈ this.entries) :
    entry.1 ∈ this :=
  Finmap.mem_def.mpr (Multiset.mem_map_of_mem _ member)

/-- `String` joins the tokens of the map's entries in some order of the entries. -/
theorem exists_entries_string (this : LoadMap) :
    ∃ entries : List (Σ _ : String, Int64), (entries : Multiset _) = this.entries ∧
      (this.entries.map loadToken).sort (· ≤ ·) = entries.map loadToken := by
  obtain ⟨all, listed⟩ : ∃ all : List (Σ _ : String, Int64), (all : Multiset _) = this.entries :=
    Quotient.exists_rep this.entries
  let byToken := fun a b : Σ _ : String, Int64 => decide (loadToken a ≤ loadToken b)
  refine ⟨all.mergeSort byToken, ?_, ?_⟩
  · rw [← listed]
    exact Multiset.coe_eq_coe.mpr (List.mergeSort_perm all byToken)
  · rw [← listed, Multiset.map_coe, Multiset.coe_sort]
    exact (@List.map_mergeSort _ _ byToken (fun x1 x2 => decide (x1 ≤ x2)) loadToken all
      (fun a _ b _ => rfl)).symm

theorem string_empty : (∅ : LoadMap).string = "" := by
  have noEntries : (∅ : LoadMap).entries = 0 := rfl
  rw [string, noEntries, Multiset.map_zero, Multiset.sort_zero, String.intercalate_nil]

theorem string_eq_empty_iff (this : LoadMap) : this.string = "" ↔ this = ∅ := by
  constructor
  · intro empty
    obtain ⟨entries, same, sorted⟩ := exists_entries_string this
    cases entries with
    | nil => exact Finmap.ext same.symm
    | cons entry rest =>
      -- the first token printed has an `=` in it
      rw [string, sorted, List.map_cons] at empty
      have spelled := congrArg String.toList empty
      cases rest <;> simp [loadToken, String.intercalate_cons_cons] at spelled
  · rintro rfl
    exact string_empty

/-- The tokens of the printed text are the sorted tokens of the entries. -/
theorem tokens_string {this : LoadMap} (readable : ∀ name ∈ this, Readable name) (nonempty : this ≠ ∅) :
    (this.string.toList.splitOn ',').map String.ofList = (this.entries.map loadToken).sort (· ≤ ·) := by
  apply Go.Strings.split_join rfl
  · intro none
    exact nonempty ((string_eq_empty_iff this).mp (by rw [string, none]; rfl))
  · intro token member
    obtain ⟨entry, inEntries, rfl⟩ := Multiset.mem_map.mp ((Multiset.mem_sort _).mp member)
    exact comma_not_mem_loadToken (readable entry.1 (mem_of_mem_entries inEntries))

/-- Printing a map whose names are readable and parsing the text gives the map back. -/
theorem parseLoadMap_string {this : LoadMap} (readable : ∀ name ∈ this, Readable name) :
    parseLoadMap this.string = (this, none) := by
  by_cases empty : this = ∅
  · subst empty
    rw [string_empty]
    rfl
  have printed : this.string ≠ "" := fun blank => empty ((string_eq_empty_iff this).mp blank)
  obtain ⟨entries, same, sorted⟩ := exists_entries_string this
  have named : ∀ entry ∈ entries, Readable entry.1 := by
    intro entry member
    apply readable
    rw [Finmap.mem_def, ← same, Multiset.coe_keys, Multiset.mem_coe]
    exact List.mem_keys_of_mem member
  rw [parseLoadMap, if_neg printed, tokens_string readable empty, sorted,
    addLoadConditions_loadTokens _ named, Lib.assignAll_empty_of_entries same]

/-- Every name in a map `ParseLoadMap` returns without an error is readable. -/
theorem readable_of_parseLoadMap {loadList : String} (accepted : (parseLoadMap loadList).2 = none) :
    ∀ name ∈ (parseLoadMap loadList).1, Readable name := by
  unfold parseLoadMap at accepted ⊢
  split
  · intro name member
    exact absurd member (Finmap.notMem_empty)
  · rename_i nonempty
    rw [if_neg nonempty] at accepted
    apply readable_of_addLoadConditions _ accepted (fun name member => absurd member Finmap.notMem_empty)
    intro condition member
    obtain ⟨piece, inSplit, rfl⟩ := List.mem_map.mp member
    simpa using (Go.Strings.sep_not_mem_of_mem_splitOn inSplit).1

/-- The tokens of a map whose names are readable are distinct: each reads back as its
entry. -/
theorem nodup_loadTokens {this : LoadMap} (readable : ∀ name ∈ this, Readable name) :
    (this.entries.map loadToken).Nodup := by
  apply Multiset.Nodup.map_on _ this.nodup_entries
  intro first inFirst second inSecond same
  have readsFirst := parseLoadCondition_loadToken (readable first.1 (mem_of_mem_entries inFirst))
  rw [same, parseLoadCondition_loadToken (readable second.1 (mem_of_mem_entries inSecond))] at readsFirst
  obtain ⟨name, value⟩ := first
  obtain ⟨name', value'⟩ := second
  simp only [Except.ok.injEq, Prod.mk.injEq] at readsFirst
  rw [readsFirst.1, readsFirst.2]

/-- The printed text of a map whose names are readable lists its tokens in strictly
increasing order. -/
theorem sortedLT_tokens_string {this : LoadMap} (readable : ∀ name ∈ this, Readable name) :
    ((this.string.toList.splitOn ',').map String.ofList).SortedLT := by
  by_cases empty : this = ∅
  · subst empty
    rw [string_empty]
    exact List.sortedLT_iff_pairwise.mpr (by simp)
  rw [tokens_string readable empty]
  apply List.SortedLE.sortedLT_of_nodup
  · exact List.sortedLE_iff_pairwise.mpr (Multiset.pairwise_sort _ _)
  · rw [← Multiset.coe_nodup, Multiset.sort_eq]
    exact nodup_loadTokens readable

/-- Two maps whose names are readable print the same text only when they are equal. -/
theorem eq_of_string_eq {this other : LoadMap} (readable : ∀ name ∈ this, Readable name)
    (readable' : ∀ name ∈ other, Readable name) (same : this.string = other.string) : this = other := by
  have back := parseLoadMap_string readable
  rw [same, parseLoadMap_string readable'] at back
  exact (Prod.mk.inj back).1.symm

/-- A text `ParseLoadMap` accepts parses to a map that its printed text parses back to. -/
theorem parseLoadMap_string_parseLoadMap {loadList : String} (accepted : (parseLoadMap loadList).2 = none) :
    parseLoadMap (parseLoadMap loadList).1.string = parseLoadMap loadList := by
  rw [parseLoadMap_string (readable_of_parseLoadMap accepted)]
  exact Prod.ext rfl accepted.symm

end LoadMap

/-- `ParseLoadMap` reads back what `String` prints of every map whose status variables are
non-empty and hold neither `,` nor `=`, whatever its values; every text it accepts, with
repeated names or not, parses to a map that its printed text parses back to; and the
printed text is the map's tokens in strictly increasing order, one text per map. -/
theorem load_map_round_trip :
    (∀ m : LoadMap, (∀ name ∈ m, LoadMap.Readable name) → LoadMap.parseLoadMap m.string = (m, none)) ∧
    (∀ s : String, (LoadMap.parseLoadMap s).2 = none →
      LoadMap.parseLoadMap (LoadMap.parseLoadMap s).1.string = LoadMap.parseLoadMap s) ∧
    (∀ m : LoadMap, (∀ name ∈ m, LoadMap.Readable name) →
      ((m.string.toList.splitOn ',').map String.ofList).SortedLT ∧
      (m ≠ ∅ → (((m.string.toList.splitOn ',').map String.ofList : List String) : Multiset String) =
        m.entries.map LoadMap.loadToken) ∧
      ∀ m' : LoadMap, (∀ name ∈ m', LoadMap.Readable name) → m.string = m'.string → m = m') := by
  refine ⟨fun m readable => LoadMap.parseLoadMap_string readable,
    fun s accepted => LoadMap.parseLoadMap_string_parseLoadMap accepted, ?_⟩
  intro m readable
  refine ⟨LoadMap.sortedLT_tokens_string readable, ?_, fun m' readable' same => LoadMap.eq_of_string_eq readable readable' same⟩
  intro nonempty
  rw [LoadMap.tokens_string readable nonempty, Multiset.sort_eq]

/-- The thresholds of the flag's own example read back from their printed text. -/
theorem load_map_round_trip_threads :
    (LoadMap.parseLoadMap "Threads_running=100,Threads_connected=500").2 = none ∧
    LoadMap.parseLoadMap (LoadMap.parseLoadMap "Threads_running=100,Threads_connected=500").1.string =
      LoadMap.parseLoadMap "Threads_running=100,Threads_connected=500" :=
  ⟨by decide, load_map_round_trip.2.1 _ (by decide)⟩

end GhOst.Base
