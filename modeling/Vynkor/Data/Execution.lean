import Mathlib.Logic.Basic

/-! Finite runs of a system given by a partial step function, and the rule that
carries an invariant along them. A guard restricts the steps a run may take. -/

namespace Execution
variable {σ α : Type}

/-- A run from the first state to the second, every step of which the guard lets
pass. -/
inductive Run (step : σ → α → Option σ) (guard : σ → α → Bool) : σ → σ → Prop where
  | refl (state : σ) : Run step guard state state
  | step {start middle final : σ} {action : α} (before : Run step guard start middle)
      (allowed : guard middle action = true) (stepped : step middle action = some final) : Run step guard start final

def unguarded (_ : σ) (_ : α) : Bool := true

variable {step : σ → α → Option σ} {guard : σ → α → Bool} {start middle final : σ} {actions : List α}

theorem Run.trans (first : Run step guard start middle) (last : Run step guard middle final) :
    Run step guard start final := by
  induction last with
  | refl => exact first
  | step _ allowed stepped ih => exact .step ih allowed stepped

/-- What holds at the start and survives every permitted step holds at the end. -/
theorem Run.preserves {valid : σ → Prop} (run : Run step guard start final) (initial : valid start)
    (keeps : ∀ state action next, guard state action = true → step state action = some next → valid state → valid next) :
    valid final := by
  induction run with
  | refl => exact initial
  | step _ allowed stepped ih => exact keeps _ _ _ allowed stepped ih

theorem Run.weaken {weaker : σ → α → Bool} (run : Run step guard start final)
    (passes : ∀ state action, guard state action = true → weaker state action = true) : Run step weaker start final := by
  induction run with
  | refl => exact .refl _
  | step _ allowed stepped ih => exact .step ih (passes _ _ allowed) stepped

/-- A part of the state that each step leaves alone or moves on by a step of its own is
in a run of its own. -/
theorem Run.project {τ γ : Type} {inner : τ → γ → Option τ} (part : σ → τ) (run : Run step guard start final)
    (moves : ∀ state action next, step state action = some next →
      part next = part state ∨ ∃ move, inner (part state) move = some (part next)) :
    Run inner unguarded (part start) (part final) := by
  induction run with
  | refl => exact .refl _
  | step _ _ stepped ih =>
    rcases moves _ _ _ stepped with same | ⟨_, moved⟩
    · exact same ▸ ih
    · exact .step ih rfl moved

/-- Executes the actions in order, as far as the guard and the step permit. -/
def exec (step : σ → α → Option σ) (guard : σ → α → Bool) : σ → List α → Option σ
  | state, [] => some state
  | state, action :: rest =>
    if guard state action then
      match step state action with
      | some next => exec step guard next rest
      | none => none
    else none

theorem exec_append {first last : List α} (executed : exec step guard start first = some middle) :
    exec step guard start (first ++ last) = exec step guard middle last := by
  induction first generalizing start with
  | nil =>
    cases executed
    rfl
  | cons action rest ih =>
    simp only [List.cons_append, exec] at executed ⊢
    split at executed
    next allowed =>
      rw [if_pos allowed]
      split at executed
      next stepped => exact ih executed
      · cases executed
    · cases executed

theorem exec_run (executed : exec step guard start actions = some final) :
    Run step guard start final := by
  induction actions generalizing start with
  | nil =>
    cases executed
    exact .refl _
  | cons action rest ih =>
    simp only [exec] at executed
    split at executed
    next allowed =>
      split at executed
      next next stepped =>
        have first : Run step guard start next := .step (.refl start) allowed stepped
        exact first.trans (ih executed)
      · cases executed
    · cases executed

theorem exec_get_run (executed : (exec step guard start actions).isSome) :
    Run step guard start ((exec step guard start actions).get executed) :=
  exec_run (Option.some_get executed).symm

end Execution
