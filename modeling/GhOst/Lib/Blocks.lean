import Mathlib.Data.List.Basic
import Mathlib.Data.List.Pairwise
import Mathlib.Order.Basic
import Mathlib.Order.Lattice

/-! A list cut into consecutive blocks of a fixed size, and the facts that pick one
block of a strictly increasing list out by an interval: a filter that rejects what
comes before the block, accepts the block and rejects what comes after returns it. -/

namespace Lib

universe u

variable {α : Type u}

/-- The list cut into consecutive blocks of `size` elements, the last one possibly
shorter; a size of zero is taken as one. -/
def blocks (size : Nat) : List α → List (List α)
  | [] => []
  | a :: rest => (a :: rest.take (size - 1)) :: blocks size (rest.drop (size - 1))
termination_by l => l.length
decreasing_by simp only [List.length_drop, List.length_cons]; omega

@[simp] theorem blocks_nil (size : Nat) : blocks size ([] : List α) = [] := by
  simp only [blocks]

theorem blocks_cons (size : Nat) (a : α) (rest : List α) :
    blocks size (a :: rest) = (a :: rest.take (size - 1)) :: blocks size (rest.drop (size - 1)) := by
  simp only [blocks]

/-- A nonempty list starts with its first `size` elements as a block. -/
theorem blocks_of_ne_nil {size : Nat} (positive : 0 < size) {l : List α} (nonempty : l ≠ []) :
    blocks size l = l.take size :: blocks size (l.drop size) := by
  obtain ⟨a, rest, rfl⟩ := List.exists_cons_of_ne_nil nonempty
  obtain ⟨k, rfl⟩ : ∃ k, size = k + 1 := ⟨size - 1, by omega⟩
  rw [blocks_cons]
  simp

@[simp] theorem flatten_blocks (size : Nat) (l : List α) : (blocks size l).flatten = l := by
  induction l using blocks.induct size with
  | case1 => simp
  | case2 a rest ih => rw [blocks_cons, List.flatten_cons, ih, List.cons_append, List.take_append_drop]

theorem ne_nil_of_mem_blocks {size : Nat} {l : List α} : ∀ block ∈ blocks size l, block ≠ [] := by
  induction l using blocks.induct size with
  | case1 => simp
  | case2 a rest ih =>
    rw [blocks_cons]
    rintro block (_ | ⟨_, later⟩)
    · simp
    · exact ih block later

theorem length_le_of_mem_blocks {size : Nat} (positive : 0 < size) {l : List α} :
    ∀ block ∈ blocks size l, block.length ≤ size := by
  induction l using blocks.induct size with
  | case1 => simp
  | case2 a rest ih =>
    rw [blocks_cons]
    rintro block (_ | ⟨_, later⟩)
    · simp only [List.length_cons, List.length_take]; omega
    · exact ih block later

/-- A list of `n` elements has `⌈n / size⌉` blocks. -/
theorem length_blocks {size : Nat} (positive : 0 < size) (l : List α) :
    (blocks size l).length = (l.length + size - 1) / size := by
  induction l using blocks.induct size with
  | case1 => rw [blocks_nil, List.length_nil, List.length_nil, Nat.zero_add, Nat.div_eq_of_lt (by omega)]
  | case2 a rest ih =>
    rw [blocks_cons, List.length_cons, ih, List.length_drop, List.length_cons]
    have whole : (rest.length + 1 + size - 1) / size = rest.length / size + 1 := by
      rw [show rest.length + 1 + size - 1 = rest.length + size by omega, Nat.add_div_right _ positive]
    rw [whole]
    rcases Nat.lt_or_ge rest.length (size - 1) with short | long
    · have none : rest.length - (size - 1) + size - 1 < size := by omega
      rw [Nat.div_eq_of_lt none, Nat.div_eq_of_lt (by omega)]
    · rw [show rest.length - (size - 1) + size - 1 = rest.length by omega]

/-! ## Picking a block out -/

/-- A filter that rejects `before` and `after` and accepts `middle` returns `middle`. -/
theorem filter_eq_middle {p : α → Bool} {before middle after : List α}
    (below : ∀ a ∈ before, p a = false) (inside : ∀ a ∈ middle, p a = true)
    (above : ∀ a ∈ after, p a = false) : (before ++ middle ++ after).filter p = middle := by
  have none : ∀ {l : List α}, (∀ a ∈ l, p a = false) → l.filter p = [] :=
    fun rejected => List.filter_eq_nil_iff.mpr fun a member => by simp [rejected a member]
  rw [List.filter_append, List.filter_append, none below, none above, List.filter_eq_self.mpr inside]
  simp

/-- The range end the offset query finds when the range holds `size` elements, and
the temptable query otherwise, is the last of the first `size` elements. -/
theorem head?_drop_or_getLast?_take {size : Nat} (positive : 0 < size) (l : List α) :
    (l.drop (size - 1)).head?.or (l.take size).getLast? = (l.take size).getLast? := by
  rw [List.head?_drop, List.getLast?_take, if_neg (by omega)]
  cases l[size - 1]? <;> simp

theorem getLastD_of_ne_nil {l : List α} (nonempty : l ≠ []) (fallback : α) :
    l.getLastD fallback = l.getLast nonempty := by
  rw [List.getLastD_eq_getLast?, List.getLast?_eq_some_getLast nonempty, Option.getD_some]

section Increasing

variable [LinearOrder α]

/-- In a strictly increasing list an element after a split point lies above the
last element before it. -/
theorem getLast_lt_of_mem_right {before after : List α} (increasing : (before ++ after).Pairwise (· < ·))
    (nonempty : before ≠ []) {a : α} (member : a ∈ after) : before.getLast nonempty < a :=
  (List.pairwise_append.mp increasing).2.2 _ (List.getLast_mem nonempty) a member

theorem le_getLast_of_mem {l : List α} (increasing : l.Pairwise (· < ·)) {a : α} (member : a ∈ l) :
    a ≤ l.getLast (List.ne_nil_of_mem member) :=
  (increasing.imp le_of_lt).rel_getLast member

theorem head_le_of_mem {l : List α} (increasing : l.Pairwise (· < ·)) {a : α} (member : a ∈ l) :
    l.head (List.ne_nil_of_mem member) ≤ a :=
  (increasing.imp le_of_lt).rel_head member

end Increasing

/-- In a list whose elements strictly increase under `f`, an element no greater than
some element of a prefix lies in that prefix. -/
theorem mem_prefix_of_le {β : Type u} [LinearOrder β] {f : α → β} {l front : List α}
    (increasing : l.Pairwise (fun a b => f a < f b)) (leading : front <+: l) {a e : α} (member : a ∈ front)
    (present : e ∈ l) (atMost : f e ≤ f a) : e ∈ front := by
  obtain ⟨back, rfl⟩ := leading
  rcases List.mem_append.mp present with early | late
  · exact early
  · exact absurd atMost (not_le.mpr ((List.pairwise_append.mp increasing).2.2 a member e late))

end Lib
