import Mathlib.Data.List.Nodup

/-! The four statements the applier sends to the ghost table, as MySQL runs them on a
table with one unique index: `DELETE ... WHERE`, `REPLACE` (which first deletes every
row that collides with the new one on the index), `INSERT IGNORE` (which drops a row
that collides) and `UPDATE ... SET ... WHERE`, which fails with a duplicate-entry error
when the rows it writes collide. A table is its rows; `index` reads a row's value of
the unique index. -/

namespace GhOst.Mysql

/-- The error of a statement whose rows would collide on the unique index. -/
inductive TableError where
  | duplicateEntry
  deriving DecidableEq, Repr

section Table

variable {σ γ : Type} [DecidableEq γ] (index : σ → γ)

/-- The row with the given value of the unique index. -/
def lookup (rows : List σ) (value : γ) : Option σ :=
  rows.find? fun row => index row = value

/-- No two rows share a value of the unique index. -/
def Unique (rows : List σ) : Prop :=
  (rows.map index).Nodup

/-- `DELETE FROM ... WHERE`. -/
def deleteWhere (selected : σ → Bool) (rows : List σ) : List σ :=
  rows.filter fun row => !selected row

/-- `REPLACE INTO`: the rows colliding with the new one go, then it is inserted. -/
def replace (row : σ) (rows : List σ) : List σ :=
  rows.filter (fun old => index old ≠ index row) ++ [row]

/-- `INSERT IGNORE`: a row colliding with one already there is dropped. -/
def insertIgnore (row : σ) (rows : List σ) : List σ :=
  if rows.any fun old => index old = index row then rows else rows ++ [row]

/-- `UPDATE ... SET ... WHERE`: every matching row is overwritten; a collision on the
unique index fails the statement. -/
def updateWhere (selected : σ → Bool) (row : σ) (rows : List σ) : Except TableError (List σ) :=
  let updated := rows.map fun old => if selected old then row else old
  if (updated.map index).Nodup then .ok updated else .error .duplicateEntry

/-! ## Rows by the value of the index -/

@[simp] theorem lookup_nil (value : γ) : lookup index ([] : List σ) value = none := rfl

theorem lookup_eq_none {rows : List σ} {value : γ} :
    lookup index rows value = none ↔ ∀ row ∈ rows, index row ≠ value := by
  simp [lookup, List.find?_eq_none]

theorem lookup_append (rows more : List σ) (value : γ) :
    lookup index (rows ++ more) value = (lookup index rows value).or (lookup index more value) :=
  List.find?_append

theorem lookup_singleton (row : σ) (value : γ) :
    lookup index [row] value = if index row = value then some row else none := by
  simp [lookup, List.find?_singleton]

/-- A filter that keeps every row with the value leaves its lookup alone. -/
theorem lookup_filter_of_keeps {keep : σ → Bool} {value : γ} (keeps : ∀ row, index row = value → keep row)
    (rows : List σ) : lookup index (rows.filter keep) value = lookup index rows value := by
  simp only [lookup, List.find?_filter]
  congr 1
  funext row
  by_cases hit : index row = value <;> simp [hit, keeps row]

/-- A filter that drops every row with the value leaves none. -/
theorem lookup_filter_of_drops {keep : σ → Bool} {value : γ} (drops : ∀ row, index row = value → keep row = false)
    (rows : List σ) : lookup index (rows.filter keep) value = none :=
  (lookup_eq_none index).mpr fun row member same => by simp [drops row same] at member

theorem lookup_deleteWhere (rows : List σ) (key value : γ) :
    lookup index (deleteWhere (fun row => index row = key) rows) value =
      if value = key then none else lookup index rows value := by
  unfold deleteWhere
  split
  · next same => exact lookup_filter_of_drops index (fun row hit => by simp [hit, same]) rows
  · next other => exact lookup_filter_of_keeps index (fun row hit => by simp [hit, other]) rows

theorem lookup_replace (row : σ) (rows : List σ) (value : γ) :
    lookup index (replace index row rows) value =
      if value = index row then some row else lookup index rows value := by
  rw [replace, lookup_append, lookup_singleton]
  split
  · next same =>
    rw [lookup_filter_of_drops index (fun old hit => by simp [hit, same]) rows, if_pos same.symm]
    rfl
  · next other =>
    have kept : ∀ old, index old = value → decide (index old ≠ index row) = true := fun old hit => by
      simp only [hit, ne_eq, decide_eq_true_eq]
      exact Ne.symm other
    rw [lookup_filter_of_keeps index kept rows, if_neg (Ne.symm other), Option.or_none]

theorem lookup_insertIgnore (row : σ) (rows : List σ) (value : γ) :
    lookup index (insertIgnore index row rows) value =
      if value = index row ∧ lookup index rows value = none then some row else lookup index rows value := by
  unfold insertIgnore
  by_cases present : rows.any fun old => index old = index row
  · rw [if_pos present, if_neg]
    rintro ⟨rfl, absent⟩
    obtain ⟨old, member, same⟩ := List.any_eq_true.mp present
    exact (lookup_eq_none index).mp absent old member (of_decide_eq_true same)
  · rw [if_neg present, lookup_append, lookup_singleton]
    by_cases hit : value = index row
    · have absent : lookup index rows value = none :=
        (lookup_eq_none index).mpr fun old member same =>
          present (List.any_eq_true.mpr ⟨old, member, by simp [same, hit]⟩)
      rw [absent, if_pos hit.symm, if_pos ⟨hit, rfl⟩]
      rfl
    · rw [if_neg (Ne.symm hit), Option.or_none, if_neg fun both => hit both.1]

theorem index_of_lookup {rows : List σ} {value : γ} {row : σ} (found : lookup index rows value = some row) :
    index row = value := by
  simpa using List.find?_some found

/-- Rewriting rows into rows whose index reads the same value rewrites what a lookup
finds. -/
theorem lookup_map {τ : Type} {mappedIndex : τ → γ} {f : σ → τ} (keeps : ∀ row, mappedIndex (f row) = index row)
    (rows : List σ) (value : γ) : lookup mappedIndex (rows.map f) value = (lookup index rows value).map f := by
  simp only [lookup, List.find?_map]
  congr 2
  funext row
  simp [keeps row]

/-- An update that keeps the index value of the rows it matches writes them in place. -/
theorem updateWhere_of_index {rows : List σ} (unique : Unique index rows) {key : γ} {row : σ}
    (keeps : index row = key) :
    ∃ updated, updateWhere index (fun old => index old = key) row rows = .ok updated ∧ Unique index updated ∧
      ∀ value, lookup index updated value =
        if value = key then (lookup index rows key).map (fun _ => row) else lookup index rows value := by
  -- overwriting a row keeps its index value, so the index column is unchanged
  have sameIndex : ∀ old, index (if decide (index old = key) then row else old) = index old := by
    intro old
    by_cases hit : index old = key <;> simp [hit, keeps]
  have indexes : ((rows.map fun old => if decide (index old = key) then row else old).map index) =
      rows.map index := by
    rw [List.map_map]
    exact List.map_congr_left fun old _ => sameIndex old
  have distinct : (rows.map index).Nodup := unique
  refine ⟨_, by simp only [updateWhere, indexes, if_pos distinct]; rfl, by unfold Unique; rw [indexes]; exact unique,
    fun value => ?_⟩
  rw [lookup_map index sameIndex]
  split
  · next same =>
    subst same
    cases found : lookup index rows value with
    | none => rfl
    | some old => simp [index_of_lookup index found]
  · next other =>
    cases found : lookup index rows value with
    | none => rfl
    | some old => simp [index_of_lookup index found, other]

/-- In a table with a unique index, every row is the one its index value finds. -/
theorem lookup_of_mem {rows : List σ} (unique : Unique index rows) {row : σ} (member : row ∈ rows) :
    lookup index rows (index row) = some row := by
  induction rows with
  | nil => cases member
  | cons first rest ih =>
    have split : index first ∉ rest.map index ∧ Unique index rest := by
      simpa [Unique] using unique
    rcases List.mem_cons.mp member with same | later
    · subst same
      simp [lookup]
    · have other : index first ≠ index row := fun same =>
        split.1 (same ▸ List.mem_map_of_mem later)
      simp only [lookup, List.find?_cons, other, decide_false] at ih ⊢
      exact ih split.2 later

/-! ## The index stays unique -/

omit [DecidableEq γ] in
theorem unique_map {τ : Type} {mappedIndex : τ → γ} {f : σ → τ} (keeps : ∀ row, mappedIndex (f row) = index row)
    (rows : List σ) : Unique mappedIndex (rows.map f) ↔ Unique index rows := by
  unfold Unique
  rw [List.map_map, show mappedIndex ∘ f = index from funext keeps]

omit [DecidableEq γ] in
theorem unique_deleteWhere {rows : List σ} (unique : Unique index rows) (selected : σ → Bool) :
    Unique index (deleteWhere selected rows) :=
  (List.Nodup.sublist (List.Sublist.map index List.filter_sublist) unique)

theorem unique_replace {rows : List σ} (unique : Unique index rows) (row : σ) :
    Unique index (replace index row rows) := by
  unfold Unique replace
  rw [List.map_append, List.nodup_append]
  refine ⟨List.Nodup.sublist (List.Sublist.map index List.filter_sublist) unique, by simp, ?_⟩
  intro a member b other
  obtain ⟨old, kept, rfl⟩ := List.mem_map.mp member
  simp only [List.map_cons, List.map_nil, List.mem_singleton] at other
  subst other
  simpa using (List.mem_filter.mp kept).2

theorem unique_insertIgnore {rows : List σ} (unique : Unique index rows) (row : σ) :
    Unique index (insertIgnore index row rows) := by
  unfold insertIgnore
  split
  · exact unique
  · next absent =>
    unfold Unique
    rw [List.map_append, List.nodup_append]
    refine ⟨unique, by simp, ?_⟩
    intro a member b other
    obtain ⟨old, present, rfl⟩ := List.mem_map.mp member
    simp only [List.map_cons, List.map_nil, List.mem_singleton] at other
    subst other
    intro same
    exact absent (List.any_eq_true.mpr ⟨old, present, by simp [same]⟩)

end Table

end GhOst.Mysql
