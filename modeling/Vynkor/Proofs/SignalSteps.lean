import Vynkor.Proofs.Instances
import Vynkor.Signals

/-! What one step of the signalling tasks can do. Without them a run is one of the
supervisor. -/

namespace Vynkor.Proofs
open Execution Supervisor

inductive Signals (state : Signalling) : Deed → Signalling → Prop where
  | act {action supervisor} (admitted : state.admits action = true)
      (moves : Moves state.supervisor action supervisor) :
      Signals state (.act action)
        { state with
          supervisor
          terms := state.due action
          escalated := state.remaining action
          log := state.log ++ action.traces }
  | waits {epoch process success}
      (found : state.supervisor.processes.get epoch = some process) (ended : process.status = .exited success) :
      Signals state (.wait epoch) { state with log := state.log ++ [.waited epoch] }
  | terminated {number epoch} (owed : state.terms.get number = some epoch) :
      Signals state (.terminate number)
        { state with terms := state.terms.erase number, log := state.log ++ [.sent .term epoch] }
  | escalated {number epoch id} (called : state.supervisor.calls.get number = some (.waiting id epoch)) :
      Signals state (.escalate number)
        { state with escalated := number :: state.escalated, log := state.log ++ [.sent .kill epoch] }
  | begun (off : state.shutdown = .off) {shutdown}
      (phase : shutdown = if state.supervisor.entries.keys = [] then .returned
        else .terminating { left := state.supervisor.entries.keys }) :
      Signals state .gracefulShutdown { state with shutdown }
  | termed {id sweep entry} (phase : state.shutdown = .terminating sweep)
      (held : state.supervisor.entries.get id = some entry) :
      Signals state (.termNext id)
        { state with
          shutdown := .terminating { left := sweep.left.erase id, seen := id :: sweep.seen }
          log := state.log ++ [.sent .term entry.epoch] }
  | unregistered {id sweep} (phase : state.shutdown = .terminating sweep)
      (absent : state.supervisor.entries.get id = none) :
      Signals state (.termNext id)
        { state with shutdown := .terminating { left := sweep.left.erase id, seen := id :: sweep.seen } }
  | termDone {sweep} (phase : state.shutdown = .terminating sweep) (done : sweep.left = []) :
      Signals state .termDone
        { state with
          shutdown := .arming { left := state.supervisor.entries.keys }
          log := state.log ++ [.terminated] }
  | armed {id sweep entry} (phase : state.shutdown = .arming sweep)
      (held : state.supervisor.entries.get id = some entry) :
      Signals state (.armNext id)
        { state with
          shutdown := .arming { left := sweep.left.erase id, seen := id :: sweep.seen }
          timers := entry.epoch :: state.timers }
  | unarmed {id sweep} (phase : state.shutdown = .arming sweep) (absent : state.supervisor.entries.get id = none) :
      Signals state (.armNext id)
        { state with shutdown := .arming { left := sweep.left.erase id, seen := id :: sweep.seen } }
  | armDone {sweep} (phase : state.shutdown = .arming sweep) (done : sweep.left = []) :
      Signals state .armDone { state with shutdown := .awaiting, log := state.log ++ [.armed] }
  | fired {epoch} (due : epoch ∈ state.timers) :
      Signals state (.fire epoch)
        { state with timers := state.timers.erase epoch, log := state.log ++ [.sent .kill epoch] }
  | returned (phase : state.shutdown = .awaiting) (done : state.timers = []) :
      Signals state .shutdownReturn { state with shutdown := .returned }
  | ticked :
      Signals state .tick
        { state with
          watchdog := state.supervisor.entries.toList.map fun held => (held.1, held.2.epoch) }
  | killed {id epoch rest} (next : state.watchdog = (id, epoch) :: rest) :
      Signals state (.inspect true) { state with watchdog := rest, log := state.log ++ [.sent .kill epoch] }
  | spared {id epoch rest} (next : state.watchdog = (id, epoch) :: rest) :
      Signals state (.inspect false) { state with watchdog := rest }

variable {state next : Signalling} {deed : Deed}

section Inversion
variable {action : Action} {number epoch : Nat} {id : String} {silent : Bool}

theorem visit_eq {sweep visited : Sweep} (step : sweep.visit id = some visited) :
    visited = { left := sweep.left.erase id, seen := id :: sweep.seen } := by
  simp only [Sweep.visit] at step
  split at step
  · cases step
  · cases step
    rfl

theorem act_signals (step : state.act action = some next) : Signals state (.act action) next := by
  simp only [Signalling.act] at step
  split at step
  next admitted =>
    split at step
    next moved =>
      cases step
      exact .act admitted (step_moves moved)
    · cases step
  · cases step

theorem wait_signals (step : state.wait epoch = some next) : Signals state (.wait epoch) next := by
  simp only [Signalling.wait] at step
  split at step
  next found =>
    split at step
    · cases step
    · cases step
      exact .waits found rfl
  · cases step

theorem terminate_signals (step : state.terminate number = some next) : Signals state (.terminate number) next := by
  simp only [Signalling.terminate] at step
  split at step
  next owed =>
    cases step
    exact .terminated owed
  · cases step

theorem escalate_signals (step : state.escalate number = some next) : Signals state (.escalate number) next := by
  simp only [Signalling.escalate] at step
  split at step
  next called =>
    split at step
    · cases step
    · cases step
      exact .escalated called
  · cases step

theorem gracefulShutdown_signals (step : state.gracefulShutdown = some next) :
    Signals state .gracefulShutdown next := by
  simp only [Signalling.gracefulShutdown] at step
  split at step
  next off =>
    cases step
    exact .begun off rfl
  · cases step

theorem termNext_signals (step : state.termNext id = some next) : Signals state (.termNext id) next := by
  simp only [Signalling.termNext] at step
  split at step
  next phase =>
    split at step
    next visited =>
      rw [visit_eq visited] at step
      split at step
      next held =>
        cases step
        exact .termed phase held
      next absent =>
        cases step
        exact .unregistered phase absent
    · cases step
  · cases step

theorem termDone_signals (step : state.termDone = some next) : Signals state .termDone next := by
  simp only [Signalling.termDone] at step
  split at step
  next phase =>
    cases step
    exact .termDone phase rfl
  · cases step

theorem armNext_signals (step : state.armNext id = some next) : Signals state (.armNext id) next := by
  simp only [Signalling.armNext] at step
  split at step
  next phase =>
    split at step
    next visited =>
      rw [visit_eq visited] at step
      split at step
      next held =>
        cases step
        exact .armed phase held
      next absent =>
        cases step
        exact .unarmed phase absent
    · cases step
  · cases step

theorem armDone_signals (step : state.armDone = some next) : Signals state .armDone next := by
  simp only [Signalling.armDone] at step
  split at step
  next phase =>
    cases step
    exact .armDone phase rfl
  · cases step

theorem fire_signals (step : state.fire epoch = some next) : Signals state (.fire epoch) next := by
  simp only [Signalling.fire] at step
  split at step
  next due =>
    cases step
    exact .fired due
  · cases step

theorem shutdownReturn_signals (step : state.shutdownReturn = some next) : Signals state .shutdownReturn next := by
  simp only [Signalling.shutdownReturn] at step
  split at step
  next phase done =>
    cases step
    exact .returned phase done
  · cases step

theorem tick_signals (step : state.tick = some next) : Signals state .tick next := by
  simp only [Signalling.tick] at step
  split at step
  · cases step
    exact .ticked
  · cases step

theorem inspect_signals (step : state.inspect silent = some next) : Signals state (.inspect silent) next := by
  simp only [Signalling.inspect] at step
  split at step
  next listed =>
    cases silent with
    | true =>
      cases step
      exact .killed listed
    | false =>
      cases step
      exact .spared listed
  · cases step

end Inversion

theorem step_signals (step : state.step deed = some next) : Signals state deed next := by
  cases deed with
  | act => exact act_signals step
  | wait => exact wait_signals step
  | terminate => exact terminate_signals step
  | escalate => exact escalate_signals step
  | gracefulShutdown => exact gracefulShutdown_signals step
  | termNext => exact termNext_signals step
  | termDone => exact termDone_signals step
  | armNext => exact armNext_signals step
  | armDone => exact armDone_signals step
  | fire => exact fire_signals step
  | shutdownReturn => exact shutdownReturn_signals step
  | tick => exact tick_signals step
  | inspect => exact inspect_signals step

theorem Signals.supervisor (signals : Signals state deed next) :
    next.supervisor = state.supervisor ∨ ∃ action, Moves state.supervisor action next.supervisor := by
  cases signals with
  | act admitted moves => exact .inr ⟨_, moves⟩
  | _ => exact .inl rfl

/-- What every move of the supervisor preserves, the signalling tasks preserve. -/
theorem Signals.preserves {deed : Deed} (signals : Signals state deed next) {valid : PluginSupervisor → Prop}
    (keeps : ∀ action moved, Moves state.supervisor action moved → valid moved) (holds : valid state.supervisor) :
    valid next.supervisor := by
  rcases signals.supervisor with same | ⟨action, moves⟩
  · rw [same]
    exact holds
  · exact keeps action _ moves

/-- Processes are known to the maps, and every exit is reported once, whatever signals are sent. -/
structure Kept (state : Signalling) : Prop where
  tracked : Tracked state.supervisor
  reported : Reported state.supervisor

theorem kept_empty : Kept {} := ⟨tracked_empty, reported_empty⟩

theorem Kept.signals (kept : Kept state) (signals : Signals state deed next) : Kept next := by
  refine ⟨?_, ?_⟩
  · exact signals.preserves (fun _ _ moves => kept.tracked.moves moves) kept.tracked
  · exact signals.preserves (fun _ _ moves => Reported.moves kept.tracked kept.reported moves) kept.reported

theorem Kept.run {start final guard} (kept : Kept start)
    (run : Run Signalling.step guard start final) : Kept final := by
  apply run.preserves kept
  intro state deed next _ step holds
  exact holds.signals (step_signals step)

def ends (epoch : Nat) : List Deed :=
  [.act (.exit epoch false), .wait epoch, .act (.reap epoch), .act (.report epoch)]

def shutsDown : List Deed := [.gracefulShutdown, .termNext "notes", .termDone, .armNext "notes", .armDone]

end Vynkor.Proofs
