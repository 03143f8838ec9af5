import Mathlib.Logic.Basic

/-! Methods that read and write a state and may fail. What a method wrote before
it failed stays written. -/

abbrev Method (σ ε : Type) := ExceptT ε (StateM σ)

namespace Method
variable {σ ε α β : Type} {state later : σ} {rest : α → Method σ ε β} {first : Method σ ε α} {outcome : Except ε α}
  {error : ε} {value : α}

def exec (method : Method σ ε α) (state : σ) : Except ε α × σ := (method.run.run state).run

theorem guard_eq_ok {refused : Prop} [Decidable refused] {rest : Except ε α} :
    (if refused then .error error else rest) = .ok value ↔ ¬refused ∧ rest = .ok value := by
  by_cases holds : refused <;> simp [holds]

@[simp] theorem exec_pure (value : α) (state : σ) : exec (pure value : Method σ ε α) state = (.ok value, state) := rfl

@[simp] theorem exec_throw (error : ε) (state : σ) : exec (throw error : Method σ ε α) state = (.error error, state) :=
  rfl

@[simp] theorem exec_get (state : σ) : exec (get : Method σ ε σ) state = (.ok state, state) := rfl

@[simp] theorem exec_modify (change : σ → σ) (state : σ) :
    exec (modify change : Method σ ε PUnit) state = (.ok ⟨⟩, change state) := rfl

@[simp] theorem exec_ofExcept (result : Except ε α) (state : σ) :
    exec (ofExcept result : Method σ ε α) state = (result, state) := by
  cases result <;> rfl

@[simp] theorem exec_adapt {δ : Type} (rename : ε → δ) (method : Method σ ε α) (state : σ) :
    exec (ExceptT.adapt rename method : Method σ δ α) state =
      ((exec method state).1.mapError rename, (exec method state).2) := rfl

@[simp] theorem exec_bind (first : Method σ ε α) (rest : α → Method σ ε β) (state : σ) :
    exec (first >>= rest) state =
      match exec first state with
      | (.ok value, later) => exec (rest value) later
      | (.error error, later) => (.error error, later) := by
  simp only [exec, ExceptT.run_bind, StateT.run_bind, Id.run_bind]
  rcases (first.run.run state).run with ⟨result, later⟩
  cases result <;> rfl

@[simp] theorem exec_ite (condition : Prop) [Decidable condition] (first second : Method σ ε α) (state : σ) :
    exec (if condition then first else second) state =
      if condition then exec first state else exec second state := by
  split <;> rfl

theorem exec_bind_ok {result : β}
    (done : exec (first >>= rest) state = (.ok result, later)) :
    ∃ value middle, exec first state = (.ok value, middle) ∧ exec (rest value) middle = (.ok result, later) := by
  rw [exec_bind] at done
  cases ran : exec first state with
  | mk outcome middle =>
    rw [ran] at done
    cases outcome with
    | error => cases done
    | ok value => exact ⟨value, middle, rfl, done⟩

theorem exec_ofExcept_ok
    (done : exec (ofExcept outcome : Method σ ε α) state = (.ok value, later)) : outcome = .ok value ∧ state = later := by
  rw [exec_ofExcept] at done
  exact Prod.mk.inj done

theorem exec_forM_modify (items : List α) (change : α → σ → σ) (state : σ) :
    exec (items.forM fun item => modify (change item) : Method σ ε PUnit) state =
      (.ok ⟨⟩, items.foldl (fun state item => change item state) state) := by
  induction items generalizing state with
  | nil => rfl
  | cons item rest ih => exact ih (change item state)

end Method
