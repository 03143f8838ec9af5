import Mathlib.Data.List.Basic

/-! Logs of events that grow at their end: what holds of every event in view of
those before it, and what has happened since. -/

namespace History
variable {α : Type}

/-- Every event is good, given what happened before it. -/
def Always (log : List α) (good : List α → α → Prop) : Prop :=
  ∀ before event after, log = before ++ event :: after → good before event

/-- Some event was marked, given what happened before it, and the barrier has not
come since. -/
def Since (log : List α) (mark : List α → α → Prop) (barrier : α) : Prop :=
  ∃ before event after, log = before ++ event :: after ∧ mark before event ∧ barrier ∉ after

variable {log : List α} {good mark : List α → α → Prop} {event barrier : α}

theorem snoc_eq_append_cons {before after : List α} {last : α} (split : log ++ [last] = before ++ event :: after) :
    after = [] ∧ before = log ∧ event = last ∨ ∃ rest, after = rest ++ [last] ∧ log = before ++ event :: rest := by
  rcases List.eq_nil_or_concat after with rfl | ⟨rest, final, rfl⟩
  · obtain ⟨same, final⟩ := List.append_inj' split rfl
    cases final
    exact .inl ⟨rfl, same.symm, rfl⟩
  · rw [List.concat_eq_append] at split ⊢
    rw [← List.cons_append, ← List.append_assoc] at split
    obtain ⟨same, final⟩ := List.append_inj' split rfl
    cases final
    exact .inr ⟨rest, rfl, same⟩

theorem always_nil : Always [] good := by
  intro before event after split
  simp at split

theorem Always.snoc (always : Always log good) (last : good log event) : Always (log ++ [event]) good := by
  intro before other after split
  rcases snoc_eq_append_cons split with ⟨_, rfl, rfl⟩ | ⟨rest, _, earlier⟩
  · exact last
  · exact always before other rest earlier

theorem not_since_nil : ¬Since [] mark barrier := by
  rintro ⟨before, event, after, split, _⟩
  simp at split

theorem since_snoc : Since (log ++ [event]) mark barrier ↔ mark log event ∨ Since log mark barrier ∧ event ≠ barrier := by
  constructor
  · rintro ⟨before, marked, after, split, holds, free⟩
    rcases snoc_eq_append_cons split with ⟨_, rfl, rfl⟩ | ⟨rest, rfl, earlier⟩
    · exact .inl holds
    · rw [List.mem_append, List.mem_singleton, not_or] at free
      exact .inr ⟨⟨before, marked, rest, earlier, holds, free.1⟩, Ne.symm free.2⟩
  · rintro (holds | ⟨⟨before, marked, rest, rfl, holds, free⟩, different⟩)
    · exact ⟨log, event, [], rfl, holds, List.not_mem_nil⟩
    · refine ⟨before, marked, rest ++ [event], by simp, holds, ?_⟩
      rw [List.mem_append, List.mem_singleton, not_or]
      exact ⟨free, Ne.symm different⟩

/-- Some event opened what no later one has ended. -/
def Open (log : List α) (opens ends : α → Prop) : Prop :=
  ∃ before event after, log = before ++ event :: after ∧ opens event ∧ ∀ later ∈ after, ¬ends later

variable {opens ends : α → Prop}

theorem not_open_nil : ¬Open [] opens ends := by
  rintro ⟨before, event, after, split, _⟩
  simp at split

theorem open_snoc : Open (log ++ [event]) opens ends ↔ opens event ∨ Open log opens ends ∧ ¬ends event := by
  constructor
  · rintro ⟨before, opening, after, split, opened, free⟩
    rcases snoc_eq_append_cons split with ⟨_, rfl, rfl⟩ | ⟨rest, rfl, earlier⟩
    · exact .inl opened
    · rw [List.forall_mem_append, List.forall_mem_singleton] at free
      exact .inr ⟨⟨before, opening, rest, earlier, opened, free.1⟩, free.2⟩
  · rintro (opened | ⟨⟨before, opening, rest, rfl, opened, free⟩, still⟩)
    · exact ⟨log, event, [], rfl, opened, by simp⟩
    · refine ⟨before, opening, rest ++ [event], by simp, opened, ?_⟩
      rw [List.forall_mem_append, List.forall_mem_singleton]
      exact ⟨free, still⟩

end History
