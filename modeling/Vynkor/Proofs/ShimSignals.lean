import Vynkor.Shim

/-! What becomes of the terminal signals that a shim gets, whenever they come, and of a
plugin that ignores them. -/

namespace Vynkor.Proofs
open Execution Shim
variable {graceSecs : Nat} {shim next : State} {action : Shim.Action}

section Escalation
variable {grace : Nat} {reaper after : Reaper}

/-- No signal yet, one that the loop has not seen, a deadline, and a kill. -/
inductive Escalates (grace : Nat) : Reaper → Prop
  | calm {now lookedAt checkedAt} (past : lookedAt ≤ now ∧ checkedAt ≤ now) :
    Escalates grace { now, lookedAt, checkedAt }
  | warned {now lookedAt checkedAt sent} (past : sent ≤ now ∧ checkedAt ≤ now) (unseen : lookedAt ≤ sent) :
    Escalates grace { now, lookedAt, checkedAt, terminalForwarded := true, sentAt := some sent }
  | armed {now lookedAt checkedAt sent} (since : sent ≤ lookedAt) (early : checkedAt ≤ lookedAt + grace) :
    Escalates grace
      { now, lookedAt, checkedAt, terminalForwarded := true, sentAt := some sent
        killDeadline := some (lookedAt + grace) }
  | killed {now lookedAt checkedAt sent instant} (since : sent ≤ lookedAt) (due : lookedAt + grace ≤ instant) :
    Escalates grace
      { now, lookedAt, checkedAt, terminalForwarded := true, sentAt := some sent
        killDeadline := some (lookedAt + grace), sigkillSent := true, kills := [instant] }

theorem Escalates.pass {later} (valid : Escalates grace reaper) (ahead : reaper.now ≤ later) :
    Escalates grace { reaper with now := later } := by
  cases valid with
  | calm past => exact .calm ⟨past.1.trans ahead, past.2.trans ahead⟩
  | warned past unseen => exact .warned ⟨past.1.trans ahead, past.2.trans ahead⟩ unseen
  | armed since early => exact .armed since early
  | killed since due => exact .killed since due

theorem Escalates.forward (valid : Escalates grace reaper) : Escalates grace reaper.forward := by
  cases valid with
  | calm past => exact .warned ⟨le_rfl, past.2⟩ past.1
  | warned past unseen => exact .warned past unseen
  | armed since early => exact .armed since early
  | killed since due => exact .killed since due

theorem Escalates.arm (valid : Escalates (fromSecs graceSecs) reaper) (armed : reaper.arm graceSecs = some after) :
    Escalates (fromSecs graceSecs) after := by
  cases valid with
  | calm past =>
    cases armed
    exact .calm ⟨le_rfl, past.2⟩
  | warned past unseen =>
    obtain ⟨deadline, added, rfl⟩ := Option.map_eq_some_iff.mp armed
    obtain ⟨_, ⟨⟩⟩ := Option.ite_none_right_eq_some.mp added
    exact .armed past.1 (past.2.trans (Nat.le_add_right _ _))
  | armed since early =>
    cases armed
    exact .armed since early
  | killed since due =>
    cases armed
    exact .killed since due

theorem Escalates.check (valid : Escalates grace reaper) : Escalates grace reaper.check := by
  cases valid with
  | calm past => exact .calm ⟨past.1, le_rfl⟩
  | warned past unseen => exact .warned ⟨past.1, le_rfl⟩ unseen
  | @armed now lookedAt _ _ since early =>
    by_cases due : lookedAt + grace ≤ now
    · simpa [Reaper.check, due] using Escalates.killed since due
    · simpa [Reaper.check, due] using Escalates.armed since (by omega)
  | killed since due => simpa [Reaper.check] using Escalates.killed since due

theorem Escalates.inTime (valid : Escalates grace reaper) : reaper.kills.length ≤ 1 ∧
    (∀ instant ∈ reaper.kills, ∃ sent ∈ reaper.sentAt, sent + grace ≤ instant) ∧
    ∀ sent ∈ reaper.sentAt, sent < reaper.lookedAt → reaper.lookedAt + grace < reaper.checkedAt → reaper.kills ≠ [] := by
  cases valid with
  | calm past => simp
  | warned past unseen => simpa using fun seen => absurd unseen (Nat.not_le.mpr seen)
  | armed since early => simpa using fun _ => early
  | killed since due => simpa using (Nat.add_le_add_right since _).trans due

theorem Escalates.forwardSignal {signal} (valid : Escalates grace shim.reaper) :
    Escalates grace (shim.forwardSignal signal).reaper := by
  simp only [State.forwardSignal]
  split
  · exact valid.forward
  · exact valid

theorem escalates_step (step : shim.step graceSecs action = some next)
    (valid : Escalates (fromSecs graceSecs) shim.reaper) : Escalates (fromSecs graceSecs) next.reaper := by
  cases action with
  | pass later =>
    obtain ⟨ahead, ⟨⟩⟩ := Option.ite_none_right_eq_some.mp step
    exact valid.pass ahead
  | childEnds status =>
    obtain ⟨_, ⟨⟩⟩ := Option.ite_none_right_eq_some.mp step
    exact valid
  | signal signal =>
    simp only [State.step, State.receive] at step
    split at step <;> cases step
    split
    · exact valid
    · exact .forwardSignal (by exact valid)
  | proceed answer =>
    simp only [State.step, State.proceed] at step
    split at step
    case h_5 =>
      split at step <;> cases step
      · exact valid
      · exact .forwardSignal (by exact valid)
    case h_11 =>
      split at step <;> cases step
      next armed => exact valid.arm armed
      · exact valid
    case h_12 =>
      cases step
      exact valid.check
    all_goals grind

end Escalation

/-- SIGKILL follows a signal by the grace period, and once only. When the loop has seen a
signal, it makes no check past the grace period without it. -/
theorem shim_kills_in_time (run : Run (·.step graceSecs) unguarded {} shim) :
    shim.reaper.kills.length ≤ 1 ∧
      (∀ instant ∈ shim.reaper.kills, ∃ sent ∈ shim.reaper.sentAt, sent + fromSecs graceSecs ≤ instant) ∧
      ∀ sent ∈ shim.reaper.sentAt, sent < shim.reaper.lookedAt →
        shim.reaper.lookedAt + fromSecs graceSecs < shim.reaper.checkedAt → shim.reaper.kills ≠ [] := by
  have valid : Escalates (fromSecs graceSecs) shim.reaper := by
    refine @Run.preserves _ _ _ _ _ _ (Escalates (fromSecs graceSecs) ·.reaper) run ?_ ?_
    · exact .calm ⟨le_rfl, le_rfl⟩
    · intro _ _ _ _ step
      exact escalates_step step
  exact valid.inTime

/-- A SIGTERM comes before there is a plugin, which ignores it. -/
def ignored : List Shim.Action := [.proceed .ok, .proceed .ok, .signal .term] ++
  List.replicate 6 (Shim.Action.proceed .ok) ++ [.pass 1] ++ List.replicate 3 (Shim.Action.proceed .ok) ++
  [.pass (fromSecs 6)] ++ List.replicate 4 (Shim.Action.proceed .ok)

def ignoredEnd : State := (exec (·.step 5) unguarded {} ignored).get (by decide +kernel)

theorem shim_kills_in_time_ignored : ignoredEnd.reaper.kills.length ≤ 1 ∧ ignoredEnd.reaper.kills ≠ [] := by
  obtain ⟨once, _, due⟩ := shim_kills_in_time (exec_get_run (by decide +kernel) : Run _ _ _ ignoredEnd)
  exact ⟨once, due 0 (by decide +kernel) (by decide +kernel) (by decide +kernel)⟩

/-- Blocked signals wait for the plugin, and all others find it, or it does not exist. -/
structure Delivered (shim : State) : Prop where
  masked : shim.point = .spawn ∨ shim.point = .store → shim.masked = true
  stored : shim.point = .unblock → shim.childPid = true
  born : shim.child = .unborn ∨ shim.childPid = true ∨ shim.point = .store
  died : ∀ signal, shim.point = .died signal → shim.child = .unborn
  idle : shim.masked = false → shim.pending = []
  received : ∀ signal ∈ shim.received, shim.point = .died signal ∨ signal ∈ shim.pending ∨ signal ∈ shim.forwarded
  returned : ∀ code, shim.point = .returned (.ok code) → ∃ status, shim.child = .ended status ∧ code = status.code

theorem delivered_receive {signal} (step : shim.receive signal = some next) (delivered : Delivered shim) :
    Delivered next := by
  simp only [State.receive, State.forwardSignal] at step
  split at step <;> cases step
  split
  · exact { delivered with idle := by simp_all, received := by grind [delivered.received] }
  split
  · exact { delivered with received := by grind [delivered.received] }
  · obtain ⟨masked, stored, born, died, idle, received, returned⟩ := delivered
    constructor <;> grind

theorem delivered_step (step : shim.step graceSecs action = some next) (delivered : Delivered shim) :
    Delivered next := by
  cases action with
  | pass later =>
    obtain ⟨ahead, ⟨⟩⟩ := Option.ite_none_right_eq_some.mp step
    exact { delivered with }
  | childEnds status =>
    obtain ⟨running, ⟨⟩⟩ := Option.ite_none_right_eq_some.mp step
    obtain ⟨masked, stored, born, died, idle, received, returned⟩ := delivered
    constructor <;> simp_all
  | signal signal => exact delivered_receive step delivered
  | proceed answer =>
    obtain ⟨masked, stored, born, died, idle, received, returned⟩ := delivered
    simp only [State.step, State.proceed, State.forwardSignal] at step
    split at step
    case h_5 reached =>
      split at step <;> cases step
      · constructor <;> simp_all
      · rw [if_pos (stored reached)]
        exact ⟨masked, stored, born, died, by grind, by grind, returned⟩
    case h_9 | h_11 | h_13 =>
      split at step <;> cases step
      all_goals constructor <;> simp_all
    all_goals
      cases step
      try constructor <;> simp_all

/-- Whenever a terminal signal comes, it is held back only while signals are blocked, it ends
the shim only if there is no plugin, and otherwise it is passed on. What the shim returns is
the status of a plugin that has ended. -/
theorem shim_passes_signals (run : Run (·.step graceSecs) unguarded {} shim) :
    (∀ signal ∈ shim.received, shim.point = .died signal ∨ signal ∈ shim.pending ∨ signal ∈ shim.forwarded) ∧
      (shim.masked = false → shim.pending = []) ∧ (∀ signal, shim.point = .died signal → shim.child = .unborn) ∧
      ∀ code, shim.point = .returned (.ok code) → ∃ status, shim.child = .ended status ∧ code = status.code := by
  have delivered : Delivered shim := by
    refine run.preserves (by constructor <;> simp) ?_
    intro _ _ _ _ step
    exact delivered_step step
  exact ⟨delivered.received, delivered.idle, delivered.died, delivered.returned⟩

def reapedEnd : State := (exec (·.step 5) unguarded ignoredEnd [.childEnds (.signaled 9), .pass (fromSecs 7),
  .proceed .ok, .proceed .ok]).get (by decide +kernel)

theorem shim_passes_signals_reaped : .term ∈ reapedEnd.forwarded ∧
    ∃ status, reapedEnd.child = .ended status ∧ 137 = status.code := by
  have run : Run (·.step 5) unguarded {} reapedEnd :=
    (exec_get_run (by decide +kernel) : Run _ _ _ ignoredEnd).trans (exec_get_run (by decide +kernel))
  obtain ⟨passed, idle, _, returned⟩ := shim_passes_signals run
  exact ⟨by decide +kernel, returned 137 (by decide +kernel)⟩

end Vynkor.Proofs
