import GhOst.Lib.Regex
import GhOst.Lib.Lists
import GhOst.Go.Strconv
import GhOst.Go.Strings
import Mathlib.Data.Finset.Lattice.Lemmas

/-! `InstanceKey` (`instance_key.go`): a host and a port. `StringCode` prints `host:port`
with no brackets, and `NewRawInstanceKey` reads a key back by trying four patterns in
order: a host without `:` and a port, such a host alone, a bracketed IPv6 literal and a
port, and a bare IPv6 literal. A printed key is therefore read back exactly when its host
has no `:`; the printed form of an IPv6 literal is taken whole as a host with the default
port. `InstanceKeyMap` (`instance_key_map.go`) is the set of keys behind
`--throttle-control-replicas`, printed and read as a comma-separated list. -/

namespace GhOst.Mysql

open Lib

/-- `DefaultInstancePort`. -/
def DefaultInstancePort : Int64 := 3306

/-- `InstanceKey`. Go's `int` port is 64 bits wide. -/
structure InstanceKey where
  hostname : String
  port : Int64
  deriving DecidableEq, Repr

/-- `[:0-9a-fA-F]`. -/
def isIPv6Symbol (c : Char) : Bool :=
  c == ':' || c.isDigit || decide ('a' ≤ c ∧ c ≤ 'f') || decide ('A' ≤ c ∧ c ≤ 'F')

/-- `ipv4HostPortRegexp`: `^([^:]+):([0-9]+)$`. -/
def ipv4HostPortRegexp : Regex Char :=
  .concat [.beginText, .group 1 (.plus (.char (· != ':'))), .char (· == ':'),
    .group 2 (.plus (.char Char.isDigit)), .endText]

/-- `ipv4HostRegexp`: `^([^:]+)$`. -/
def ipv4HostRegexp : Regex Char :=
  .concat [.beginText, .group 1 (.plus (.char (· != ':'))), .endText]

/-- `ipv6HostPortRegexp`: `^\[([:0-9a-fA-F]+)\]:([0-9]+)$`. -/
def ipv6HostPortRegexp : Regex Char :=
  .concat [.beginText, .char (· == '['), .group 1 (.plus (.char isIPv6Symbol)), .char (· == ']'), .char (· == ':'),
    .group 2 (.plus (.char Char.isDigit)), .endText]

/-- `ipv6HostRegexp`: `^([:0-9a-fA-F]+)$`. -/
def ipv6HostRegexp : Regex Char :=
  .concat [.beginText, .group 1 (.plus (.char isIPv6Symbol)), .endText]

/-- `submatch[index]` as a Go string. -/
def submatchText (submatch : Nat → Option (List Char)) (index : Nat) : String :=
  String.ofList (Regex.submatch submatch index)

/-- The `if ... else if` chain of `NewRawInstanceKey`: the hostname and port texts of the
first pattern that matches, the port text empty for a pattern without one. -/
def hostPortParts (hostPort : String) : Option (String × String) :=
  match ipv4HostPortRegexp.findSubmatch hostPort.toList with
  | some submatch => some (submatchText submatch 1, submatchText submatch 2)
  | none =>
    match ipv4HostRegexp.findSubmatch hostPort.toList with
    | some submatch => some (submatchText submatch 1, "")
    | none =>
      match ipv6HostPortRegexp.findSubmatch hostPort.toList with
      | some submatch => some (submatchText submatch 1, submatchText submatch 2)
      | none => (ipv6HostRegexp.findSubmatch hostPort.toList).map fun submatch => (submatchText submatch 1, "")

/-- `NewRawInstanceKey`. With an invalid port Go also returns the key with the default port
beside the error; its callers read only the error. -/
def newRawInstanceKey (hostPort : String) : Except String InstanceKey :=
  match hostPortParts hostPort with
  | none => .error ("Cannot parse address: " ++ hostPort)
  | some (hostname, port) =>
    if port != "" then
      match Go.Strconv.Atoi port with
      | some number => .ok { hostname, port := number }
      | none => .error ("Invalid port: " ++ port)
    else .ok { hostname, port := DefaultInstancePort }

/-- `ParseInstanceKey`. -/
def parseInstanceKey (hostPort : String) : Except String InstanceKey :=
  newRawInstanceKey hostPort

/-! ### The four patterns on a printed key -/

/-- A host without `:` and a decimal port match `^([^:]+):([0-9]+)$` with the host and the
port as the groups. -/
theorem findSubmatch_ipv4HostPortRegexp {x d : Char} {xs ds : List Char}
    (host : ∀ c ∈ x :: xs, c ≠ ':') (port : ∀ c ∈ d :: ds, c.isDigit) :
    ∃ submatch, ipv4HostPortRegexp.findSubmatch (x :: xs ++ ':' :: d :: ds) = some submatch ∧
      Regex.submatch submatch 1 = x :: xs ∧ Regex.submatch submatch 2 = d :: ds := by
  rw [ipv4HostPortRegexp, Regex.findSubmatch_beginText, Regex.matchAt_group]
  simp only [Regex.matchAt_concat_cons, Regex.matchAt_concat_nil, Regex.matchAt_beginText_of_nil]
  rw [Regex.matchAt_group_plus_run 1 (':' :: d :: ds) [] _ (by simpa using host) (by rintro _ _ ⟨⟩; rfl)]
  · rw [Regex.matchAt_char_cons (by rfl), Regex.matchAt_group_plus_end 2 _ _ port]
    refine ⟨_, rfl, ?_, ?_⟩ <;> simp [Regex.submatch]
  · -- the host's group ends only where the `:` of the pattern can follow
    rintro ⟨before, rest, captures⟩ ⟨y, rest', rfl, accepted⟩
    exact Regex.matchAt_char_of_rejected (by rintro _ _ ⟨⟩; simpa using accepted) _

/-- A host with a `:` does not match `^([^:]+):([0-9]+)$`: the pattern's `:` is the host's
first one, and what follows it is not all digits. -/
theorem findSubmatch_ipv4HostPortRegexp_of_colon {host : List Char} (colon : ':' ∈ host) (rest : List Char) :
    ipv4HostPortRegexp.findSubmatch (host ++ ':' :: rest) = none := by
  obtain ⟨first, c, after, split, isColon, noColon⟩ := Lib.exists_split_first (p := (· = ':')) ⟨':', colon, rfl⟩
  subst isColon split
  rw [ipv4HostPortRegexp, Regex.findSubmatch_beginText, Regex.matchAt_group]
  simp only [Regex.matchAt_concat_cons, Regex.matchAt_concat_nil, Regex.matchAt_beginText_of_nil, List.append_assoc]
  cases first with
  | nil => rw [List.nil_append, Regex.matchAt_group_plus_of_rejected 1 (by rintro _ _ ⟨⟩; rfl)]; rfl
  | cons x xs =>
    rw [Regex.matchAt_group_plus_run 1 (':' :: after ++ ':' :: rest) [] _ (by simpa using noColon)
      (by rintro _ _ ⟨⟩; rfl)]
    · rw [List.cons_append, Regex.matchAt_char_cons (by rfl),
        Regex.matchAt_group_plus_end_of_rejected 2 _ _ ⟨':', by simp, rfl⟩]
      rfl
    · rintro ⟨before, rest, captures⟩ ⟨y, rest', rfl, accepted⟩
      exact Regex.matchAt_char_of_rejected (by rintro _ _ ⟨⟩; simpa using accepted) _

/-- A text with a `:` does not match `^([^:]+)$`. -/
theorem findSubmatch_ipv4HostRegexp_of_colon {text : List Char} (colon : ':' ∈ text) :
    ipv4HostRegexp.findSubmatch text = none := by
  rw [ipv4HostRegexp, Regex.findSubmatch_beginText, Regex.matchAt_group]
  simp only [Regex.matchAt_concat_cons, Regex.matchAt_concat_nil, Regex.matchAt_beginText_of_nil]
  rw [Regex.matchAt_group_plus_end_of_rejected 1 _ _ ⟨':', colon, rfl⟩]
  rfl

/-- A text that does not start with `[` does not match the bracketed pattern. -/
theorem findSubmatch_ipv6HostPortRegexp_of_unbracketed {text : List Char}
    (unbracketed : ∀ y rest, text = y :: rest → y ≠ '[') :
    ipv6HostPortRegexp.findSubmatch text = none := by
  rw [ipv6HostPortRegexp, Regex.findSubmatch_beginText, Regex.matchAt_group]
  simp only [Regex.matchAt_concat_cons, Regex.matchAt_beginText_of_nil]
  rw [Regex.matchAt_char_of_rejected (fun y rest next => by simpa using unbracketed y rest next)]
  rfl

/-- A text of IPv6 symbols matches `^([:0-9a-fA-F]+)$` whole. -/
theorem findSubmatch_ipv6HostRegexp {x : Char} {xs : List Char} (symbols : ∀ c ∈ x :: xs, isIPv6Symbol c) :
    ∃ submatch, ipv6HostRegexp.findSubmatch (x :: xs) = some submatch ∧ Regex.submatch submatch 1 = x :: xs := by
  rw [ipv6HostRegexp, Regex.findSubmatch_beginText, Regex.matchAt_group]
  simp only [Regex.matchAt_concat_cons, Regex.matchAt_concat_nil, Regex.matchAt_beginText_of_nil]
  rw [Regex.matchAt_group_plus_end 1 _ _ symbols]
  exact ⟨_, rfl, by simp [Regex.submatch]⟩

/-- A text with a symbol outside `[:0-9a-fA-F]` does not match `^([:0-9a-fA-F]+)$`. -/
theorem findSubmatch_ipv6HostRegexp_of_rejected {text : List Char} (outside : ∃ z ∈ text, isIPv6Symbol z = false) :
    ipv6HostRegexp.findSubmatch text = none := by
  rw [ipv6HostRegexp, Regex.findSubmatch_beginText, Regex.matchAt_group]
  simp only [Regex.matchAt_concat_cons, Regex.matchAt_concat_nil, Regex.matchAt_beginText_of_nil]
  rw [Regex.matchAt_group_plus_end_of_rejected 1 _ _ outside]
  rfl

namespace InstanceKey

/-- `StringCode`: `fmt.Sprintf("%s:%d", Hostname, Port)`. -/
def stringCode (this : InstanceKey) : String :=
  this.hostname ++ ":" ++ toString this.port

/-- `DisplayString`. -/
def displayString (this : InstanceKey) : String :=
  this.stringCode

/-- `detachHint`, the mark of a detached host name. -/
def detachHint : String := "//"

/-- `IsDetached`. -/
def isDetached (this : InstanceKey) : Bool :=
  Go.Strings.HasPrefix this.hostname.toList detachHint.toList

/-- `IsValid`: a named, attached host on a positive port. -/
def isValid (this : InstanceKey) : Bool :=
  this.hostname != "_" && !this.isDetached && (0 < this.hostname.utf8ByteSize && 0 < this.port)

theorem hostname_ne_empty_of_isValid {this : InstanceKey} (valid : this.isValid = true) : this.hostname ≠ "" := by
  intro empty
  simp [isValid, empty] at valid

theorem stringCode_toList (this : InstanceKey) :
    this.stringCode.toList = this.hostname.toList ++ ':' :: (toString this.port).toList := by
  simp [stringCode]

end InstanceKey

/-! ### Reading back a printed key -/

/-- A printed key whose host has no `:` matches the first pattern, host and port apart. -/
theorem hostPortParts_stringCode {key : InstanceKey} (named : key.hostname ≠ "")
    (noColon : ':' ∉ key.hostname.toList) (nonneg : 0 ≤ key.port) :
    hostPortParts key.stringCode = some (key.hostname, toString key.port) := by
  obtain ⟨x, xs, host⟩ := List.exists_cons_of_ne_nil (by simpa using named : key.hostname.toList ≠ [])
  obtain ⟨d, ds, digits, allDigits⟩ := Go.Strconv.toString_int64_of_nonneg nonneg
  have hostSymbols : ∀ c ∈ x :: xs, c ≠ ':' := fun c member colon => noColon (host ▸ colon ▸ member)
  obtain ⟨submatch, found, one, two⟩ := findSubmatch_ipv4HostPortRegexp hostSymbols allDigits
  rw [hostPortParts, key.stringCode_toList, host, digits, found]
  simp [submatchText, one, two, ← host, ← digits]

/-- A printed key whose host has a `:` (and no `[`) misses the first three patterns; the
last one takes the whole text as the host, or nothing matches. -/
theorem hostPortParts_stringCode_of_colon {key : InstanceKey} (colon : ':' ∈ key.hostname.toList)
    (unbracketed : '[' ∉ key.hostname.toList) :
    hostPortParts key.stringCode = none ∨ hostPortParts key.stringCode = some (key.stringCode, "") := by
  obtain ⟨x, xs, host⟩ := List.exists_cons_of_ne_nil (List.ne_nil_of_mem colon)
  have firstSymbol : ∀ y rest, key.stringCode.toList = y :: rest → y ≠ '[' := by
    intro y rest spelled bracket
    rw [key.stringCode_toList, host, List.cons_append, List.cons.injEq] at spelled
    exact unbracketed (host ▸ spelled.1 ▸ bracket ▸ List.mem_cons_self)
  rw [hostPortParts, findSubmatch_ipv6HostPortRegexp_of_unbracketed firstSymbol, key.stringCode_toList,
    findSubmatch_ipv4HostPortRegexp_of_colon colon, findSubmatch_ipv4HostRegexp_of_colon (by simp), ← key.stringCode_toList]
  by_cases symbols : ∀ c ∈ key.stringCode.toList, isIPv6Symbol c
  · right
    rw [key.stringCode_toList, host, List.cons_append] at symbols ⊢
    obtain ⟨submatch, found, one⟩ := findSubmatch_ipv6HostRegexp symbols
    rw [found]
    simp [submatchText, one, ← List.cons_append, ← host, ← key.stringCode_toList]
  · left
    push Not at symbols
    obtain ⟨z, member, outside⟩ := symbols
    simp [findSubmatch_ipv6HostRegexp_of_rejected ⟨z, member, by simpa using outside⟩]

/-- `ParseInstanceKey` reads back the `StringCode` of a key whose host has no `:`. -/
theorem parseInstanceKey_stringCode {key : InstanceKey} (named : key.hostname ≠ "")
    (noColon : ':' ∉ key.hostname.toList) (nonneg : 0 ≤ key.port) :
    parseInstanceKey key.stringCode = .ok key := by
  obtain ⟨d, ds, digits, -⟩ := Go.Strconv.toString_int64_of_nonneg nonneg
  have printed : toString key.port ≠ "" := by
    intro empty
    simp [empty] at digits
  simp [parseInstanceKey, newRawInstanceKey, hostPortParts_stringCode named noColon nonneg, printed,
    Go.Strconv.Atoi_toString]

/-- `ParseInstanceKey` never reads back the `StringCode` of a key whose host has a `:`: it
fails, or it reads a host longer than the key's. -/
theorem parseInstanceKey_stringCode_of_colon {key : InstanceKey} (colon : ':' ∈ key.hostname.toList)
    (unbracketed : '[' ∉ key.hostname.toList) :
    parseInstanceKey key.stringCode ≠ .ok key := by
  rcases hostPortParts_stringCode_of_colon colon unbracketed with nothing | whole
  · simp [parseInstanceKey, newRawInstanceKey, nothing]
  · intro same
    simp only [parseInstanceKey, newRawInstanceKey, whole, bne_self_eq_false, Bool.false_eq_true, if_false,
      Except.ok.injEq] at same
    have longer := congrArg String.length (congrArg InstanceKey.hostname same)
    have colonLength : ":".length = 1 := rfl
    simp only [InstanceKey.stringCode, String.length_append] at longer
    omega

/-- `InstanceKeyMap`, a Go `map[InstanceKey]bool` used as a set. -/
abbrev InstanceKeyMap := Finset InstanceKey

namespace InstanceKeyMap

/-- `AddKey`. -/
def addKey (this : InstanceKeyMap) (key : InstanceKey) : InstanceKeyMap :=
  insert key this

/-- `ToCommaDelimitedList`, with `keys` the order in which `range` visits the map, which Go
leaves unspecified. -/
def toCommaDelimitedList (keys : List InstanceKey) : String :=
  ",".intercalate (keys.map InstanceKey.displayString)

/-- The loop of `ReadCommaDelimitedList`: each token is parsed and added; the first error
ends the loop, and the keys added before it stay in the map. -/
def addParsedKeys : InstanceKeyMap → List String → InstanceKeyMap × Option String
  | this, [] => (this, none)
  | this, token :: tokens =>
    match parseInstanceKey token with
    | .ok key => addParsedKeys (this.addKey key) tokens
    | .error err => (this, some err)

/-- `ReadCommaDelimitedList`: the map after the call and the error it returns. -/
def readCommaDelimitedList (this : InstanceKeyMap) (list : String) : InstanceKeyMap × Option String :=
  if list == "" then (this, none)
  else addParsedKeys this ((list.toList.splitOn ',').map String.ofList)

/-- Adding the parsed printed keys adds the keys, when each reads back. -/
theorem addParsedKeys_stringCodes (this : InstanceKeyMap) (keys : List InstanceKey)
    (readsBack : ∀ key ∈ keys, parseInstanceKey key.stringCode = .ok key) :
    addParsedKeys this (keys.map InstanceKey.stringCode) = (this ∪ keys.toFinset, none) := by
  induction keys generalizing this with
  | nil => simp [addParsedKeys]
  | cons key keys ih =>
    simp only [List.map_cons, addParsedKeys, readsBack key List.mem_cons_self]
    rw [ih (this.addKey key) (fun other member => readsBack other (List.mem_cons_of_mem key member))]
    simp [addKey, List.toFinset_cons, Finset.insert_union, Finset.union_insert]

/-- A printed key has no comma when its host has none. -/
theorem comma_not_mem_stringCode {key : InstanceKey} (noComma : ',' ∉ key.hostname.toList) :
    ',' ∉ key.stringCode.toList := by
  rw [key.stringCode_toList]
  intro member
  simp only [List.mem_append, List.mem_cons] at member
  rcases member with inHost | colon | inPort
  · exact noComma inHost
  · exact absurd colon (by decide)
  · rcases Go.Strconv.mem_toString_int64 inPort with minus | digit
    · exact absurd minus (by decide)
    · exact absurd digit (by decide)

/-- The list `ToCommaDelimitedList` prints splits back into the printed keys. -/
theorem tokens_toCommaDelimitedList {keys : List InstanceKey} (nonempty : keys ≠ [])
    (noComma : ∀ key ∈ keys, ',' ∉ key.hostname.toList) :
    ((toCommaDelimitedList keys).toList.splitOn ',').map String.ofList = keys.map InstanceKey.stringCode := by
  have separated : ∀ code ∈ keys.map (fun key => key.stringCode.toList), ',' ∉ code := by
    simp only [List.mem_map]
    rintro code ⟨key, member, rfl⟩
    exact comma_not_mem_stringCode (noComma key member)
  have spelled : (toCommaDelimitedList keys).toList = [','].intercalate (keys.map fun key => key.stringCode.toList) := by
    simp [toCommaDelimitedList, InstanceKey.displayString, Function.comp_def]
  rw [spelled, List.splitOn_intercalate ',' separated (by simpa using nonempty)]
  simp [Function.comp_def]

/-- `ReadCommaDelimitedList` of `ToCommaDelimitedList` adds every key, in any order of the
map's keys, when each host is non-empty and has no `:` and no `,`, and each port is
non-negative. -/
theorem readCommaDelimitedList_toCommaDelimitedList (this : InstanceKeyMap) (keys : List InstanceKey)
    (readable : ∀ key ∈ keys, key.hostname ≠ "" ∧ ':' ∉ key.hostname.toList ∧ ',' ∉ key.hostname.toList ∧ 0 ≤ key.port) :
    this.readCommaDelimitedList (toCommaDelimitedList keys) = (this ∪ keys.toFinset, none) := by
  cases keys with
  | nil => simp [readCommaDelimitedList, toCommaDelimitedList]
  | cons key rest =>
    have tokens := tokens_toCommaDelimitedList (List.cons_ne_nil key rest)
      (fun other member => (readable other member).2.2.1)
    have printed : toCommaDelimitedList (key :: rest) ≠ "" := by
      -- the empty list would be one empty token, and no printed key is empty
      intro empty
      rw [empty] at tokens
      have blank : key.stringCode = "" := by simp at tokens; exact tokens.1
      simpa [key.stringCode_toList] using congrArg String.toList blank
    rw [readCommaDelimitedList, if_neg (by simpa using printed), tokens]
    exact addParsedKeys_stringCodes this (key :: rest) fun other member =>
      parseInstanceKey_stringCode (readable other member).1 (readable other member).2.1 (readable other member).2.2.2

end InstanceKeyMap

/-- A key printed by `StringCode` reads back through `ParseInstanceKey` exactly when its host
has no `:`, for every non-empty host without `[` and every non-negative port; and
`ReadCommaDelimitedList` into an empty map reads back the map `ToCommaDelimitedList`
printed, in any order of its keys, when every host is non-empty and has no `:` and no `,`. -/
theorem instance_keys_read_back :
    (∀ key : InstanceKey, key.hostname ≠ "" → '[' ∉ key.hostname.toList → 0 ≤ key.port →
      (parseInstanceKey key.stringCode = .ok key ↔ ':' ∉ key.hostname.toList)) ∧
    (∀ keys : List InstanceKey,
      (∀ key ∈ keys, key.hostname ≠ "" ∧ ':' ∉ key.hostname.toList ∧ ',' ∉ key.hostname.toList ∧ 0 ≤ key.port) →
      InstanceKeyMap.readCommaDelimitedList ∅ (InstanceKeyMap.toCommaDelimitedList keys) = (keys.toFinset, none)) := by
  refine ⟨fun key named unbracketed nonneg => ⟨fun readsBack colon => ?_, fun noColon => ?_⟩, fun keys readable => ?_⟩
  · exact parseInstanceKey_stringCode_of_colon colon unbracketed readsBack
  · exact parseInstanceKey_stringCode named noColon nonneg
  · simpa using InstanceKeyMap.readCommaDelimitedList_toCommaDelimitedList ∅ keys readable

/-- An IPv6 literal does not survive printing: `::1` on port 3306 prints as `::1:3306`, which
reads back as the host `::1:3306` on the default port, alone and in a list; with a zone
index the printed key does not parse at all. -/
theorem ipv6_literal_reads_back_as_host :
    parseInstanceKey (InstanceKey.stringCode ⟨"::1", 3306⟩) ≠ .ok ⟨"::1", 3306⟩ ∧
    parseInstanceKey (InstanceKey.stringCode ⟨"::1", 3306⟩) = .ok ⟨"::1:3306", 3306⟩ ∧
    InstanceKeyMap.readCommaDelimitedList ∅ (InstanceKeyMap.toCommaDelimitedList [⟨"::1", 3306⟩]) =
      ({⟨"::1:3306", 3306⟩}, none) ∧
    parseInstanceKey (InstanceKey.stringCode ⟨"fe80::1%eth0", 3306⟩) = .error "Cannot parse address: fe80::1%eth0:3306" := by
  refine ⟨fun readsBack => ?_, by decide, by decide, by decide⟩
  have noColon := (instance_keys_read_back.1 ⟨"::1", 3306⟩ (by decide) (by decide) (by decide)).mp readsBack
  exact noColon (by decide)

end GhOst.Mysql
