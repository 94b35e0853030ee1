import Mathlib.Data.Option.Basic

/-! Runs of a machine whose step is a partial function: each action of a run must be
possible in the state it meets, and the run is stuck otherwise. The rules a proof
about such a machine uses: how runs compose, and the invariant rule, that what every
step keeps holds at the end of every run. -/

namespace Lib

universe u v

variable {σ : Type u} {α : Type v} (step : σ → α → Option σ)

/-- The state a list of actions leads to, if each is possible in turn. -/
def run : σ → List α → Option σ
  | state, [] => some state
  | state, action :: rest => (step state action).bind fun next => run next rest

@[simp] theorem run_nil (state : σ) : run step state [] = some state := rfl

@[simp] theorem run_cons (state : σ) (action : α) (rest : List α) :
    run step state (action :: rest) = (step state action).bind fun next => run step next rest := rfl

theorem run_append (state : σ) (first second : List α) :
    run step state (first ++ second) = (run step state first).bind fun middle => run step middle second := by
  induction first generalizing state with
  | nil => rfl
  | cons action rest ih =>
    simp only [List.cons_append, run_cons]
    cases step state action with
    | none => rfl
    | some next => exact ih next

theorem run_of_step {state next : σ} {action : α} (stepped : step state action = some next) (rest : List α) :
    run step state (action :: rest) = run step next rest := by
  simp [stepped]

/-- The invariant rule: what holds at the start and what every possible step keeps
holds at the end of every run. -/
theorem run_invariant (holds : σ → Prop)
    (preserved : ∀ state action next, holds state → step state action = some next → holds next)
    {state final : σ} {actions : List α} (start : holds state) (ran : run step state actions = some final) :
    holds final := by
  induction actions generalizing state with
  | nil =>
    cases ran
    exact start
  | cons action rest ih =>
    cases stepped : step state action with
    | none => simp [stepped] at ran
    | some next =>
      rw [run_of_step step stepped] at ran
      exact ih (preserved state action next start stepped) ran

/-- The invariant rule for the runs whose actions all pass a test: only the steps by
such actions need keep the invariant. -/
theorem run_invariant_of_forall (holds : σ → Prop) (allowed : α → Prop)
    (preserved : ∀ state action next, allowed action → holds state → step state action = some next → holds next)
    {state final : σ} {actions : List α} (all : ∀ action ∈ actions, allowed action) (start : holds state)
    (ran : run step state actions = some final) : holds final := by
  induction actions generalizing state with
  | nil =>
    cases ran
    exact start
  | cons action rest ih =>
    cases stepped : step state action with
    | none => simp [stepped] at ran
    | some next =>
      rw [run_of_step step stepped] at ran
      have kept : holds next := preserved state action next (all action List.mem_cons_self) start stepped
      exact ih (fun other member => all other (List.mem_cons_of_mem action member)) kept ran

/-- The counting form of the invariant rule: an invariant indexed by how many of the
counted actions have run holds at the end of a run, at the count of the run's counted
actions. -/
theorem run_invariant_countP (holds : Nat → σ → Prop) (counted : α → Bool)
    (preserved : ∀ count state action next, holds count state → step state action = some next →
      holds (if counted action then count + 1 else count) next)
    {count : Nat} {state final : σ} {actions : List α} (start : holds count state)
    (ran : run step state actions = some final) : holds (count + actions.countP counted) final := by
  induction actions generalizing count state with
  | nil =>
    cases ran
    exact start
  | cons action rest ih =>
    cases stepped : step state action with
    | none => simp [stepped] at ran
    | some next =>
      rw [run_of_step step stepped] at ran
      have reached := ih (preserved count state action next start stepped) ran
      rw [List.countP_cons]
      cases counts : counted action
      · simpa [counts] using reached
      · simpa [counts, Nat.add_assoc, Nat.add_comm 1] using reached

end Lib
