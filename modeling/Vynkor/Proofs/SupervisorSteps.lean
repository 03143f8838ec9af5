import Vynkor.Data.Execution
import Vynkor.Supervisor

/-! What one step of the supervisor can do, and what holds of it in every run. -/

namespace Vynkor.Proofs
open DashMap Execution Supervisor

section Fields
variable (state : PluginSupervisor) (task : Task)

@[simp, grind =] theorem release_entries : (state.release task).entries = state.entries := by
  cases task <;> rfl

@[simp, grind =] theorem release_forcedRestarts :
    (state.release task).forcedRestarts = state.forcedRestarts := by
  cases task <;> rfl

@[simp, grind =] theorem release_stoppedEpochs :
    (state.release task).stoppedEpochs = state.stoppedEpochs := by
  cases task <;> rfl

@[simp, grind =] theorem release_nextEpoch : (state.release task).nextEpoch = state.nextEpoch := by
  cases task <;> rfl

@[simp, grind =] theorem release_events : (state.release task).events = state.events := by
  cases task <;> rfl

@[simp, grind =] theorem release_processes : (state.release task).processes = state.processes := by
  cases task <;> rfl

@[simp, grind =] theorem release_history : (state.release task).history = state.history := by
  cases task <;> rfl

@[simp, grind =] theorem release_spawns : (state.release task).spawns = state.spawns.erase task := by
  cases task <;> rfl

@[simp, grind =] theorem release_calls (number : Nat) :
    (state.release task).calls.get number = if task = .call number then none else state.calls.get number := by
  cases task with
  | monitor => rfl
  | call own => simp [PluginSupervisor.release, get_erase, eq_comm]

@[simp, grind =] theorem release_monitor :
    (state.release task).monitor = if task = .monitor then .idle else state.monitor := by
  cases task <;> rfl

end Fields

section Table
variable (processes : Processes) (epoch other : Nat) {status : Supervisor.Status}

def owner : Option (String × Bool) := (processes.get epoch).map fun process => (process.pluginId, process.watched)

@[simp, grind =] theorem owner_insert (process : Process) :
    owner (processes.insert epoch process) other =
      if other = epoch then some (process.pluginId, process.watched) else owner processes other := by
  rw [owner, get_insert, owner]
  split <;> rfl

@[simp, grind =] theorem owner_become (status : Status) :
    owner (processes.update epoch (.become status)) other = owner processes other := by
  rw [owner, get_update, owner]
  split
  · cases processes.get other <;> rfl
  · rfl

@[simp, grind =] theorem owner_watch : owner (processes.update epoch .watch) other =
    if other = epoch then (owner processes other).map fun known => (known.1, true) else owner processes other := by
  rw [owner, get_update, owner]
  split
  · cases processes.get other <;> rfl
  · rfl

@[simp, grind =] theorem status_insert (process : Process) :
    Processes.status (processes.insert epoch process) other =
      if other = epoch then some process.status else processes.status other := by
  rw [Processes.status, get_insert, Processes.status]
  split <;> rfl

@[simp, grind =] theorem status_become (status : Status) :
    Processes.status (processes.update epoch (.become status)) other =
      if other = epoch then (processes.status other).map fun _ => status else processes.status other := by
  rw [Processes.status, get_update, Processes.status]
  split
  · cases processes.get other <;> rfl
  · rfl

@[simp, grind =] theorem status_watch :
    Processes.status (processes.update epoch .watch) other = processes.status other := by
  rw [Processes.status, get_update, Processes.status]
  split
  · cases processes.get other <;> rfl
  · rfl

theorem runs_become {status} (ended : status ≠ .running)
    (runs : Processes.runs (processes.update epoch (.become status)) other = true) : processes.runs other = true := by
  rw [Processes.runs, status_become] at runs
  split at runs
  · cases known : processes.status other with
    | none => simp [known] at runs
    | some before => simp [known, ended] at runs
  · exact runs

def ended : Supervisor.Status → Bool
  | .reaped _ | .reported => true
  | .running | .exited _ => false

theorem gone_eq : processes.gone epoch = (processes.status epoch).any ended := by
  rw [Processes.gone]
  cases processes.status epoch with
  | none => rfl
  | some status => cases status <;> rfl

theorem gone_become (status : Supervisor.Status) : Processes.gone (processes.update epoch (.become status)) other =
    if other = epoch then (processes.status other).isSome && ended status else processes.gone other := by
  rw [gone_eq, status_become]
  split
  · cases processes.status other <;> rfl
  · rw [gone_eq]

theorem reported_become (open_ : status ≠ .reported)
    (final : Processes.status (processes.update epoch (.become status)) other = some .reported) :
    processes.status other = some .reported := by
  rw [status_become] at final
  split at final
  · cases known : processes.status other with
    | none => simp [known] at final
    | some before => simp [known, open_] at final
  · exact final

theorem status_isSome : (processes.status epoch).isSome = (owner processes epoch).isSome := by
  rw [Processes.status, owner, Option.isSome_map, Option.isSome_map]

end Table

theorem status_found {status : Supervisor.Status} {processes : Processes} {epoch : Nat} {process : Process}
    (found : processes.get epoch = some process) (is : process.status = status) :
    processes.status epoch = some status := by
  simp [Processes.status, found, is]

inductive Moves (state : PluginSupervisor) : Action → PluginSupervisor → Prop where
  | spawnPlugin {number id config} (free : state.calls.get number = none) :
      Moves state (.spawnPlugin number id config)
        { state with
          calls := state.calls.insert number (.spawn id config)
          history := state.history ++ [.spawnCalled id] }
  | refused {number id config} (called : state.calls.get number = some (.spawn id config))
      (held : state.entries.containsKey id = true) :
      Moves state (.check number) { state with calls := state.calls.erase number }
  | admitted {number id config}
      (called : state.calls.get number = some (.spawn id config)) (absent : state.entries.get id = none) :
      Moves state (.check number)
        { state with
          calls := state.calls.insert number .spawning
          spawns := state.spawns.insert (.call number) { pluginId := id, config } }
  | created {task spawn} (job : state.spawns.get task = some spawn) (new : spawn.created = none) :
      Moves state (.create task true)
        { state with
          nextEpoch := state.nextEpoch + 1
          processes := state.processes.insert (state.nextEpoch + 1) { pluginId := spawn.pluginId }
          spawns := state.spawns.insert task { spawn with created := some (state.nextEpoch + 1) }
          history := state.history ++ [.created spawn.pluginId (state.nextEpoch + 1)] }
  | uncreated {task spawn} (job : state.spawns.get task = some spawn) (new : spawn.created = none) :
      Moves state (.create task false)
        ({ state with nextEpoch := state.nextEpoch + 1 }.release task)
  | inserted {task spawn epoch} (job : state.spawns.get task = some spawn) (made : spawn.created = some epoch) :
      Moves state (.insertEntry task)
        ({ state with
          entries := state.entries.insert spawn.pluginId
            { config := spawn.config, restartCount := spawn.restartCount, epoch }
          processes := state.processes.update epoch .watch }.release task)
  | failed {task late spawn epoch} (job : state.spawns.get task = some spawn)
      (made : spawn.created = some epoch) (ended : (late || !state.processes.runs epoch) = true) :
      Moves state (.failHandshake task late) (state.release task)
  | unstoppable {number id} (absent : state.entries.get id = none) :
      Moves state (.stopPlugin number id) state
  | stopped {number id entry} (free : state.calls.get number = none)
      (held : state.entries.get id = some entry) :
      Moves state (.stopPlugin number id)
        { state with
          entries := state.entries.erase id
          calls := state.calls.insert number (.recording id entry.epoch)
          history := state.history ++ [.stopCalled id] }
  | recorded {number id epoch} (called : state.calls.get number = some (.recording id epoch)) :
      Moves state (.recordStop number)
        { state with
          stoppedEpochs := state.stoppedEpochs.insert id epoch
          calls := state.calls.insert number (.clearing id epoch) }
  | cleared {number id epoch} (called : state.calls.get number = some (.clearing id epoch)) :
      Moves state (.clearForced number)
        { state with
          forcedRestarts := state.forcedRestarts.erase id
          calls := state.calls.insert number (.waiting id epoch) }
  | returned {number late id epoch} (called : state.calls.get number = some (.waiting id epoch))
      (ended : (late || state.processes.gone epoch) = true) :
      Moves state (.stopReturn number late)
        { state with
          calls := state.calls.erase number
          history := state.history ++ [.stopReturned id] }
  | unrestartable {number id} (absent : state.entries.get id = none) :
      Moves state (.restartPlugin number id) state
  | restarted {number id entry} (free : state.calls.get number = none)
      (held : state.entries.get id = some entry) :
      Moves state (.restartPlugin number id)
        { state with
          calls := state.calls.insert number (.flagging id entry.epoch)
          history := state.history ++ [.restartCalled id entry.epoch] }
  | flagged {number id epoch} (called : state.calls.get number = some (.flagging id epoch)) :
      Moves state (.flagForced number)
        { state with
          forcedRestarts := state.forcedRestarts.insert id ()
          calls := state.calls.erase number }
  | exited {epoch success process} (found : state.processes.get epoch = some process)
      (running : process.status = .running) :
      Moves state (.exit epoch success)
        { state with
          processes := state.processes.update epoch (.become (.exited success))
          history := state.history ++ [.exited process.pluginId epoch] }
  | reaped {epoch success process} (found : state.processes.get epoch = some process)
      (ended : process.status = .exited success) (watched : process.watched = true) :
      Moves state (.reap epoch)
        { state with processes := state.processes.update epoch (.become (.reaped success)) }
  | reported {epoch success process} (found : state.processes.get epoch = some process)
      (ended : process.status = .reaped success) :
      Moves state (.report epoch)
        { state with
          processes := state.processes.update epoch (.become .reported)
          events := state.events ++ [{ pluginId := process.pluginId, epoch, success }] }
  | received {event rest} (idle : state.monitor = .idle) (queued : state.events = event :: rest) :
      Moves state .receive { state with monitor := .received event, events := rest }
  | taken {event} (holds : state.monitor = .received event) :
      Moves state .takeForced
        { state with
          monitor := .taken event (state.forcedRestarts.containsKey event.pluginId)
          forcedRestarts := state.forcedRestarts.erase event.pluginId }
  | current {event forced entry} (holds : state.monitor = .taken event forced)
      (held : state.entries.get event.pluginId = some entry) (own : entry.epoch = event.epoch) :
      Moves state .isCurrent { state with monitor := .current event forced }
  | stale {event forced} (holds : state.monitor = .taken event forced)
      (other : ∀ entry, state.entries.get event.pluginId = some entry → entry.epoch ≠ event.epoch) :
      Moves state .isCurrent
        { state with
          monitor := .idle
          history := state.history ++ [.handled event.pluginId event.epoch false] }
  | stoppedBefore {event forced} (holds : state.monitor = .current event forced)
      (recorded : state.stoppedEpochs.get event.pluginId = some event.epoch) :
      Moves state .wasStopped
        { state with
          monitor := .idle
          history := state.history ++ [.handled event.pluginId event.epoch false] }
  | unstopped {event forced} (holds : state.monitor = .current event forced) :
      Moves state .wasStopped { state with monitor := .unstopped event forced }
  | undecided {event forced} (holds : state.monitor = .unstopped event forced)
      (absent : state.entries.get event.pluginId = none) :
      Moves state .decision
        { state with
          monitor := .forgetting event
          history := state.history ++ [.handled event.pluginId event.epoch false] }
  | restarts {event forced entry} (holds : state.monitor = .unstopped event forced)
      (held : state.entries.get event.pluginId = some entry)
      (chosen : PluginSupervisor.shouldRestart entry forced event.success = true) :
      Moves state .decision
        { state with
          monitor := .sleeping event entry.config (entry.restartCount + 1)
          history := state.history ++ [.handled event.pluginId event.epoch forced] }
  | givesUp {event forced entry} (holds : state.monitor = .unstopped event forced)
      (held : state.entries.get event.pluginId = some entry) :
      Moves state .decision
        { state with
          monitor := .forgetting event
          history := state.history ++ [.handled event.pluginId event.epoch forced] }
  | cancelled {event config count} (holds : state.monitor = .sleeping event config count)
      (recorded : state.stoppedEpochs.get event.pluginId = some event.epoch) :
      Moves state .wake { state with monitor := .idle }
  | woken {event config count} (holds : state.monitor = .sleeping event config count)
      (unrecorded : state.stoppedEpochs.get event.pluginId ≠ some event.epoch) :
      Moves state .wake
        { state with
          monitor := .respawning
          spawns := state.spawns.insert .monitor { pluginId := event.pluginId, config, restartCount := count } }
  | forgotten {event} (holds : state.monitor = .forgetting event) :
      Moves state .forget
        { state with
          monitor := .counting event.pluginId ((state.entries.get event.pluginId).elim 0 PluginEntry.restartCount)
          entries := state.entries.erase event.pluginId }
  | counted {id count} (holds : state.monitor = .counting id count) :
      Moves state .countStopped
        { state with monitor := .idle, stoppedCounts := state.stoppedCounts.insert id count }

variable {state next : PluginSupervisor} {action : Action}

section Inversion
variable {number epoch : Nat} {id : String} {config : PluginConfig} {task : Task} {ok late success : Bool}

theorem spawnPlugin_moves (step : state.spawnPlugin number id config = some next) :
    Moves state (.spawnPlugin number id config) next := by
  simp only [PluginSupervisor.spawnPlugin] at step
  split at step
  · cases step
  next free =>
    cases step
    exact .spawnPlugin free

theorem check_moves (step : state.check number = some next) : Moves state (.check number) next := by
  simp only [PluginSupervisor.check] at step
  split at step
  next id config called =>
    split at step
    next held =>
      cases step
      exact .refused called held
    next absent =>
      cases step
      exact .admitted called (by simpa [DashMap.containsKey] using absent)
  · cases step

theorem create_moves (step : state.create task ok = some next) : Moves state (.create task ok) next := by
  simp only [PluginSupervisor.create] at step
  split at step
  next spawn job =>
    split at step
    · cases step
    next new =>
      cases ok with
      | true =>
        cases step
        exact .created job new
      | false =>
        cases step
        exact .uncreated job new
  · cases step

theorem insertEntry_moves (step : state.insertEntry task = some next) :
    Moves state (.insertEntry task) next := by
  simp only [PluginSupervisor.insertEntry] at step
  split at step
  next spawn job =>
    split at step
    next epoch made =>
      cases step
      exact .inserted job made
    · cases step
  · cases step

theorem failHandshake_moves (step : state.failHandshake task late = some next) :
    Moves state (.failHandshake task late) next := by
  simp only [PluginSupervisor.failHandshake] at step
  split at step
  next spawn job =>
    split at step
    next epoch made =>
      split at step
      next ended =>
        cases step
        exact .failed job made (Bool.and_eq_true_iff.mp ended).2
      · cases step
    · cases step
  · cases step

theorem stopPlugin_moves (step : state.stopPlugin number id = some next) :
    Moves state (.stopPlugin number id) next := by
  simp only [PluginSupervisor.stopPlugin] at step
  split at step
  · cases step
  next free =>
    split at step
    next absent =>
      cases step
      exact .unstoppable absent
    next entry held =>
      cases step
      exact .stopped free held

theorem recordStop_moves (step : state.recordStop number = some next) :
    Moves state (.recordStop number) next := by
  simp only [PluginSupervisor.recordStop] at step
  split at step
  next called =>
    cases step
    exact .recorded called
  · cases step

theorem clearForced_moves (step : state.clearForced number = some next) :
    Moves state (.clearForced number) next := by
  simp only [PluginSupervisor.clearForced] at step
  split at step
  next called =>
    cases step
    exact .cleared called
  · cases step

theorem stopReturn_moves (step : state.stopReturn number late = some next) :
    Moves state (.stopReturn number late) next := by
  simp only [PluginSupervisor.stopReturn] at step
  split at step
  next called =>
    split at step
    next ended =>
      cases step
      exact .returned called ended
    · cases step
  · cases step

theorem restartPlugin_moves (step : state.restartPlugin number id = some next) :
    Moves state (.restartPlugin number id) next := by
  simp only [PluginSupervisor.restartPlugin] at step
  split at step
  · cases step
  next free =>
    split at step
    next absent =>
      cases step
      exact .unrestartable absent
    next entry held =>
      cases step
      exact .restarted free held

theorem flagForced_moves (step : state.flagForced number = some next) :
    Moves state (.flagForced number) next := by
  simp only [PluginSupervisor.flagForced] at step
  split at step
  next called =>
    cases step
    exact .flagged called
  · cases step

theorem exit_moves (step : state.exit epoch success = some next) :
    Moves state (.exit epoch success) next := by
  simp only [PluginSupervisor.exit] at step
  split at step
  next process found =>
    split at step
    next running =>
      cases step
      exact .exited found running
    · cases step
  · cases step

theorem reap_moves (step : state.reap epoch = some next) : Moves state (.reap epoch) next := by
  simp only [PluginSupervisor.reap] at step
  split at step
  next found =>
    cases step
    exact .reaped found rfl rfl
  · cases step

theorem report_moves (step : state.report epoch = some next) : Moves state (.report epoch) next := by
  simp only [PluginSupervisor.report] at step
  split at step
  next found =>
    split at step
    · cases step
      exact .reported found rfl
    · cases step
  · cases step

theorem receive_moves (step : state.receive = some next) : Moves state .receive next := by
  simp only [PluginSupervisor.receive] at step
  split at step
  next idle queued =>
    cases step
    exact .received idle queued
  · cases step

theorem takeForced_moves (step : state.takeForced = some next) : Moves state .takeForced next := by
  simp only [PluginSupervisor.takeForced] at step
  split at step
  next holds =>
    cases step
    exact .taken holds
  · cases step

theorem isCurrent_moves (step : state.isCurrent = some next) : Moves state .isCurrent next := by
  simp only [PluginSupervisor.isCurrent] at step
  split at step
  next holds =>
    split at step
    next own =>
      cases step
      obtain ⟨entry, held, same⟩ := (Option.any_eq_true _ _).mp own
      exact .current holds held (eq_of_beq same)
    next other =>
      cases step
      refine .stale holds ?_
      intro entry held same
      simp [held, same] at other
  · cases step

theorem wasStopped_moves (step : state.wasStopped = some next) : Moves state .wasStopped next := by
  simp only [PluginSupervisor.wasStopped] at step
  split at step
  next holds =>
    split at step
    next recorded =>
      cases step
      exact .stoppedBefore holds recorded
    · cases step
      exact .unstopped holds
  · cases step

theorem decision_moves (step : state.decision = some next) : Moves state .decision next := by
  simp only [PluginSupervisor.decision] at step
  split at step
  next holds =>
    split at step
    next absent =>
      cases step
      exact .undecided holds absent
    next entry held =>
      cases step
      split
      next chosen => exact .restarts holds held chosen
      · exact .givesUp holds held
  · cases step

theorem wake_moves (step : state.wake = some next) : Moves state .wake next := by
  simp only [PluginSupervisor.wake] at step
  split at step
  next holds =>
    split at step
    next recorded =>
      cases step
      exact .cancelled holds recorded
    next unrecorded =>
      cases step
      exact .woken holds unrecorded
  · cases step

theorem forget_moves (step : state.forget = some next) : Moves state .forget next := by
  simp only [PluginSupervisor.forget] at step
  split at step
  next holds =>
    cases step
    exact .forgotten holds
  · cases step

theorem countStopped_moves (step : state.countStopped = some next) : Moves state .countStopped next := by
  simp only [PluginSupervisor.countStopped] at step
  split at step
  next holds =>
    cases step
    exact .counted holds
  · cases step

end Inversion

theorem step_moves (step : state.step action = some next) : Moves state action next := by
  cases action with
  | spawnPlugin => exact spawnPlugin_moves step
  | check => exact check_moves step
  | create => exact create_moves step
  | insertEntry => exact insertEntry_moves step
  | failHandshake => exact failHandshake_moves step
  | stopPlugin => exact stopPlugin_moves step
  | recordStop => exact recordStop_moves step
  | clearForced => exact clearForced_moves step
  | stopReturn => exact stopReturn_moves step
  | restartPlugin => exact restartPlugin_moves step
  | flagForced => exact flagForced_moves step
  | exit => exact exit_moves step
  | reap => exact reap_moves step
  | report => exact report_moves step
  | receive => exact receive_moves step
  | takeForced => exact takeForced_moves step
  | isCurrent => exact isCurrent_moves step
  | wasStopped => exact wasStopped_moves step
  | decision => exact decision_moves step
  | wake => exact wake_moves step
  | forget => exact forget_moves step
  | countStopped => exact countStopped_moves step

inductive Notes (state : PluginSupervisor) : Action → Supervisor.Event → Prop where
  | spawnCalled {number id config} :
      Notes state (.spawnPlugin number id config) (.spawnCalled id)
  | created {task spawn epoch} (job : state.spawns.get task = some spawn) :
      Notes state (.create task true) (.created spawn.pluginId epoch)
  | stopCalled {number id} : Notes state (.stopPlugin number id) (.stopCalled id)
  | stopReturned {number late id epoch} (called : state.calls.get number = some (.waiting id epoch)) :
      Notes state (.stopReturn number late) (.stopReturned id)
  | restartCalled {number id epoch} :
      Notes state (.restartPlugin number id) (.restartCalled id epoch)
  | exited {epoch success id} : Notes state (.exit epoch success) (.exited id epoch)
  | ignored {id epoch} : Notes state .isCurrent (.handled id epoch false)
  | stopped {id epoch} : Notes state .wasStopped (.handled id epoch false)
  | decided {id epoch manual} : Notes state .decision (.handled id epoch manual)

theorem Moves.history (moves : Moves state action next) :
    next.history = state.history ∧ (∀ number id config, action ≠ .spawnPlugin number id config) ∨
      ∃ event, next.history = state.history ++ [event] ∧ Notes state action event := by
  cases moves with
  | spawnPlugin => exact .inr ⟨_, rfl, .spawnCalled⟩
  | created job => exact .inr ⟨_, rfl, .created job⟩
  | stopped => exact .inr ⟨_, rfl, .stopCalled⟩
  | returned called => exact .inr ⟨_, rfl, .stopReturned called⟩
  | restarted => exact .inr ⟨_, rfl, .restartCalled⟩
  | exited => exact .inr ⟨_, rfl, .exited⟩
  | stale => exact .inr ⟨_, rfl, .ignored⟩
  | stoppedBefore => exact .inr ⟨_, rfl, .stopped⟩
  | undecided | restarts | givesUp => exact .inr ⟨_, rfl, .decided⟩
  | uncreated | inserted | failed => exact .inl ⟨release_history _ _, by simp⟩
  | _ => exact .inl ⟨rfl, by simp⟩

def stopping : Call → Option Nat
  | .recording _ epoch | .clearing _ epoch | .waiting _ epoch => some epoch
  | .spawn _ _ | .spawning | .flagging _ _ => none

structure Tracked (state : PluginSupervisor) : Prop where
  fresh : ∀ epoch, (owner state.processes epoch).isSome = true → epoch ≤ state.nextEpoch
  entries : ∀ id entry, state.entries.get id = some entry → owner state.processes entry.epoch = some (id, true)
  jobs : ∀ task spawn epoch, state.spawns.get task = some spawn → spawn.created = some epoch →
    owner state.processes epoch = some (spawn.pluginId, false)
  apart : ∀ task other spawn rival epoch, state.spawns.get task = some spawn → spawn.created = some epoch →
    state.spawns.get other = some rival → rival.created = some epoch → task = other
  spawning : ∀ number spawn, state.spawns.get (.call number) = some spawn →
    state.calls.get number = some .spawning
  respawning : ∀ spawn, state.spawns.get .monitor = some spawn → state.monitor = .respawning

theorem tracked_empty : Tracked {} := by
  refine ⟨?_, ?_, ?_, ?_, ?_, ?_⟩
  · intro _ known
    cases known
  · intro _ _ held
    cases held
  · intro _ _ _ job
    cases job
  · intro _ _ _ _ _ job
    cases job
  · intro _ _ job
    cases job
  · intro _ job
    cases job

theorem Tracked.keep (tracked : Tracked state)
    (owners : ∀ epoch, owner next.processes epoch = owner state.processes epoch)
    (epochs : state.nextEpoch ≤ next.nextEpoch)
    (entries : ∀ id entry, next.entries.get id = some entry → state.entries.get id = some entry)
    (spawns : ∀ task spawn, next.spawns.get task = some spawn → state.spawns.get task = some spawn)
    (calls : ∀ number spawn, next.spawns.get (.call number) = some spawn →
      state.calls.get number = some .spawning → next.calls.get number = some .spawning)
    (monitor : ∀ spawn, next.spawns.get .monitor = some spawn →
      state.monitor = .respawning → next.monitor = .respawning) : Tracked next := by
  refine ⟨?_, ?_, ?_, ?_, ?_, ?_⟩
  · intro epoch known
    exact Nat.le_trans (tracked.fresh epoch (owners epoch ▸ known)) epochs
  · intro id entry held
    rw [owners]
    exact tracked.entries id entry (entries id entry held)
  · intro task spawn epoch job made
    rw [owners]
    exact tracked.jobs task spawn epoch (spawns task spawn job) made
  · intro task other spawn rival epoch job made rivalJob rivalMade
    exact tracked.apart task other spawn rival epoch (spawns _ _ job) made (spawns _ _ rivalJob) rivalMade
  · intro number spawn job
    exact calls number spawn job (tracked.spawning number spawn (spawns _ _ job))
  · intro spawn job
    exact monitor spawn job (tracked.respawning spawn (spawns _ _ job))

theorem Tracked.moves (tracked : Tracked state) (moves : Moves state action next) : Tracked next := by
  cases moves with
  | spawnPlugin free | restarted free =>
    -- a number that is free is not that of a call that spawns
    refine tracked.keep (fun _ => rfl) (Nat.le_refl _) (fun _ _ => id) (fun _ _ => id) ?_ (fun _ _ => id)
    grind
  | refused called | recorded called | cleared called | returned called | flagged called =>
    refine tracked.keep (fun _ => rfl) (Nat.le_refl _) (fun _ _ => id) (fun _ _ => id) ?_ (fun _ _ => id)
    grind
  | stopped free held =>
    refine tracked.keep (fun _ => rfl) (Nat.le_refl _) ?_ (fun _ _ => id) ?_ (fun _ _ => id)
    · grind
    · grind
  | forgotten holds =>
    refine tracked.keep (fun _ => rfl) (Nat.le_refl _) ?_ (fun _ _ => id) (fun _ _ _ => id) (by simp [holds])
    grind
  | uncreated | failed =>
    -- the job is over, and its task is free again
    refine tracked.keep (by simp) (by simp) (by simp) ?_ ?_ ?_ <;> grind
  | exited | reaped | reported =>
    exact tracked.keep (by simp) (Nat.le_refl _) (fun _ _ => id) (fun _ _ => id) (fun _ _ _ => id) (fun _ _ => id)
  | received holds | taken holds | current holds | stale holds | stoppedBefore holds | unstopped holds | undecided holds
  | restarts holds | givesUp holds | cancelled holds | counted holds =>
    exact tracked.keep (fun _ => rfl) (Nat.le_refl _) (fun _ _ => id) (fun _ _ => id) (fun _ _ _ => id) (by simp [holds])
  | admitted called absent =>
    obtain ⟨fresh, entries, jobs, apart, spawning, respawning⟩ := tracked
    refine ⟨fresh, entries, ?_, ?_, ?_, ?_⟩ <;> grind
  | woken holds unrecorded =>
    obtain ⟨fresh, entries, jobs, apart, spawning, respawning⟩ := tracked
    refine ⟨fresh, entries, ?_, ?_, ?_, ?_⟩ <;> grind
  | created job new =>
    -- the epoch of the new process is above all others
    obtain ⟨fresh, entries, jobs, apart, spawning, respawning⟩ := tracked
    refine ⟨?_, ?_, ?_, ?_, ?_, ?_⟩ <;> grind
  | @inserted task spawn epoch job made =>
    -- a process is registered once, when its wait task starts
    have unwatched := tracked.jobs task spawn epoch job made
    obtain ⟨fresh, entries, jobs, apart, spawning, respawning⟩ := tracked
    refine ⟨?_, ?_, ?_, ?_, ?_, ?_⟩ <;> grind
  | unstoppable | unrestartable => exact tracked

def starts (number : Nat) (config : PluginConfig) : List Action :=
  [.spawnPlugin number "notes" config, .check number, .create (.call number) true, .insertEntry (.call number)]

def dies (epoch : Nat) : List Action := [.exit epoch false, .reap epoch, .report epoch]

def decides : List Action := [.receive, .takeForced, .isCurrent, .wasStopped, .decision]

def stops (number : Nat) : List Action := [.stopPlugin number "notes", .recordStop number, .clearForced number]

def persistent : PluginConfig where
  restartPolicy := .always
  maxRestarts := 5

end Vynkor.Proofs
