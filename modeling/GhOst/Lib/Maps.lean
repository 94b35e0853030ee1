import Mathlib.Data.Finmap

/-! A Go map as Mathlib's `Finmap`, and the loop that assigns a list of entries to it,
`for _, e := range entries { m[e.key] = e.value }`. A key no entry names keeps what it
held; a key that exactly one entry names holds that entry's value afterwards; so assigning
the entries of a map once each, in any order, to an empty map rebuilds that map. -/

namespace Lib

universe u v

variable {α : Type u} {β : α → Type v} [DecidableEq α]

/-- The loop that assigns every entry of a list to a map, later entries over earlier ones. -/
def assignAll (m : Finmap β) (entries : List (Sigma β)) : Finmap β :=
  entries.foldl (fun m entry => m.insert entry.1 entry.2) m

@[simp] theorem assignAll_nil (m : Finmap β) : assignAll m [] = m := rfl

theorem assignAll_cons (m : Finmap β) (entry : Sigma β) (entries : List (Sigma β)) :
    assignAll m (entry :: entries) = assignAll (m.insert entry.1 entry.2) entries := rfl

theorem lookup_assignAll_of_not_mem {m : Finmap β} {entries : List (Sigma β)} {key : α}
    (absent : key ∉ entries.keys) : (assignAll m entries).lookup key = m.lookup key := by
  induction entries generalizing m with
  | nil => rfl
  | cons entry entries ih =>
    rw [List.keys_cons, List.mem_cons, not_or] at absent
    rw [assignAll_cons, ih absent.2, Finmap.lookup_insert_of_ne _ absent.1]

theorem lookup_assignAll_of_mem {m : Finmap β} {entries : List (Sigma β)} (distinct : entries.NodupKeys)
    {entry : Sigma β} (member : entry ∈ entries) : (assignAll m entries).lookup entry.1 = some entry.2 := by
  induction entries generalizing m with
  | nil => cases member
  | cons first entries ih =>
    rw [List.nodupKeys_cons] at distinct
    rw [assignAll_cons]
    rcases List.mem_cons.mp member with rfl | later
    · rw [lookup_assignAll_of_not_mem distinct.1, Finmap.lookup_insert]
    · exact ih distinct.2 later

/-- Assigning the entries of a map once each, in any order, to an empty map rebuilds it. -/
theorem assignAll_empty_of_entries {s : Finmap β} {entries : List (Sigma β)}
    (same : (entries : Multiset (Sigma β)) = s.entries) : assignAll ∅ entries = s := by
  have distinct : entries.NodupKeys := by
    rw [← Multiset.coe_nodupKeys, same]
    exact s.nodupKeys
  apply Finmap.ext_lookup
  intro key
  cases found : s.lookup key with
  | some value =>
    have member : (⟨key, value⟩ : Sigma β) ∈ entries := by
      rw [← Multiset.mem_coe, same, ← Finmap.lookup_eq_some_iff]
      exact found
    exact lookup_assignAll_of_mem distinct member
  | none =>
    have absent : key ∉ entries.keys := by
      rw [← Multiset.mem_coe, ← Multiset.coe_keys, same, ← Finmap.mem_def, ← Finmap.lookup_eq_none]
      exact found
    rw [lookup_assignAll_of_not_mem absent, Finmap.lookup_empty]

end Lib
