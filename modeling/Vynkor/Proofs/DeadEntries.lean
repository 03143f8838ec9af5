import Vynkor.Proofs.Instances

/-! An entry stands for a process that runs, or for one whose exit the monitor has yet
to deal with, as long as no respawn fails: the monitor drops its error and leaves
the entry of the dead process. -/

namespace Vynkor.Proofs
open DashMap Execution Supervisor

/-- The exit that the monitor is busy with, up to the end of its backoff. -/
def attended : Monitor → Option ExitEvent
  | .received event | .taken event _ | .current event _ | .unstopped event _ | .sleeping event _ _ | .forgetting event =>
    some event
  | .idle | .respawning | .counting _ _ => none

/-- The monitor is handling the exit of the instance, or respawns the plugin after it. -/
def Handling (state : PluginSupervisor) (id : String) (epoch : Nat) : Prop :=
  (∃ event, attended state.monitor = some event ∧ event.pluginId = id ∧ event.epoch = epoch) ∨
    state.monitor = .respawning ∧ ∃ manual, lastDecision state.history = some (id, epoch, manual)

def ExitQueued (state : PluginSupervisor) (id : String) (epoch : Nat) : Prop :=
  ∃ event ∈ state.events, event.pluginId = id ∧ event.epoch = epoch

def respawnsSucceed (_ : PluginSupervisor) : Action → Bool
  | .create .monitor ok => ok
  | .failHandshake .monitor _ => false
  | _ => true

/-- Whatever is registered has not exited, or its exit is on its way through the
monitor. -/
structure Backed (state : PluginSupervisor) : Prop where
  entries : ∀ id entry, state.entries.get id = some entry →
    state.processes.status entry.epoch ≠ some .reported ∨ ExitQueued state id entry.epoch ∨
      Handling state id entry.epoch
  decided : ∀ event config count, state.monitor = .sleeping event config count →
    ∃ manual, lastDecision state.history = some (event.pluginId, event.epoch, manual)
  respawning : ∀ spawn, state.spawns.get .monitor = some spawn →
    ∃ epoch manual, lastDecision state.history = some (spawn.pluginId, epoch, manual)

variable {state next : PluginSupervisor} {action : Action}

theorem backed_empty : Backed {} := by
  refine ⟨?_, ?_, ?_⟩
  · intro _ _ listed
    cases listed
  · intro _ _ _ sleeps
    cases sleeps
  · intro _ job
    cases job

theorem Backed.keep (backed : Backed state)
    (entries : ∀ id entry, next.entries.get id = some entry → state.entries.get id = some entry)
    (statuses : ∀ id entry, state.entries.get id = some entry →
      next.processes.status entry.epoch = some .reported → state.processes.status entry.epoch = some .reported)
    (events : next.events = state.events) (monitor : next.monitor = state.monitor)
    (decisions : lastDecision next.history = lastDecision state.history)
    (spawns : ∀ spawn, next.spawns.get .monitor = some spawn →
      ∃ same, state.spawns.get .monitor = some same ∧ same.pluginId = spawn.pluginId) : Backed next := by
  refine ⟨?_, ?_, ?_⟩
  · intro id entry listed
    have before := entries id entry listed
    rcases backed.entries id entry before with alive | queued | handling
    · exact .inl (mt (statuses id entry before) alive)
    · refine .inr (.inl ?_)
      rwa [ExitQueued, events]
    · refine .inr (.inr ?_)
      rwa [Handling, monitor, decisions]
  · intro event config count sleeps
    rw [decisions]
    exact backed.decided event config count (monitor ▸ sleeps)
  · intro spawn job
    obtain ⟨same, earlier, own⟩ := spawns spawn job
    rw [decisions, ← own]
    exact backed.respawning same earlier

theorem handling_attended {event id epoch} (busy : attended state.monitor = some event) :
    Handling state id epoch ↔ event.pluginId = id ∧ event.epoch = epoch := by
  constructor
  · rintro (⟨exit, same, own⟩ | ⟨respawns, _⟩)
    · cases busy.symm.trans same
      exact own
    · rw [respawns] at busy
      cases busy
  · intro own
    exact .inl ⟨event, busy, own⟩

theorem Backed.turn (backed : Backed state) (processes : next.processes = state.processes)
    (entries : ∀ id entry, next.entries.get id = some entry → state.entries.get id = some entry)
    (handling : ∀ id entry, next.entries.get id = some entry →
      ExitQueued state id entry.epoch ∨ Handling state id entry.epoch →
      ExitQueued next id entry.epoch ∨ Handling next id entry.epoch)
    (decided : ∀ event config count, next.monitor = .sleeping event config count →
      ∃ manual, lastDecision next.history = some (event.pluginId, event.epoch, manual))
    (respawning : ∀ spawn, next.spawns.get .monitor = some spawn →
      ∃ epoch manual, lastDecision next.history = some (spawn.pluginId, epoch, manual)) : Backed next := by
  refine ⟨?_, decided, respawning⟩
  intro id entry listed
  rw [processes]
  exact (backed.entries id entry (entries id entry listed)).imp_right (handling id entry listed)

section Monitor
variable {event : ExitEvent}

theorem attended_unspawned (tracked : Tracked state) (held : attended state.monitor = some event) (spawn : Spawn)
    (job : state.spawns.get .monitor = some spawn) : False := by
  rw [tracked.respawning spawn job] at held
  cases held

section
variable (tracked : Tracked state) (backed : Backed state) (held : attended state.monitor = some event)
  {task : Task} {spawn : Spawn} {epoch : Nat}
include tracked backed held

theorem Backed.carry (holds : attended next.monitor = some event)
    (processes : next.processes = state.processes) (entries : next.entries = state.entries)
    (events : next.events = state.events) (spawns : next.spawns = state.spawns)
    (decided : ∀ exit config count, next.monitor = .sleeping exit config count →
      ∃ manual, lastDecision next.history = some (exit.pluginId, exit.epoch, manual)) : Backed next := by
  refine backed.turn processes (by simp [entries]) ?_ decided ?_
  · intro id entry listed way
    rw [handling_attended held] at way
    rw [handling_attended holds, ExitQueued, events]
    exact way
  · intro spawn job
    exact (attended_unspawned tracked held spawn (spawns ▸ job)).elim

theorem Backed.drop (processes : next.processes = state.processes)
    (entries : ∀ id entry, next.entries.get id = some entry → state.entries.get id = some entry)
    (events : next.events = state.events) (spawns : next.spawns = state.spawns)
    (awake : ∀ exit config count, next.monitor ≠ .sleeping exit config count)
    (other : ∀ entry, next.entries.get event.pluginId = some entry → entry.epoch ≠ event.epoch) : Backed next := by
  refine backed.turn processes entries ?_ ?_ ?_
  · intro id entry listed way
    rcases way with queued | handling
    · left
      rw [ExitQueued, events]
      exact queued
    · obtain ⟨rfl, own⟩ := (handling_attended held).mp handling
      exact absurd own.symm (other entry listed)
  · intro exit config count sleeps
    exact absurd sleeps (awake exit config count)
  · intro spawn job
    exact (attended_unspawned tracked held spawn (spawns ▸ job)).elim

end

theorem Backed.receive (backed : Backed state) {rest} (idle : state.monitor = .idle)
    (queued : state.events = event :: rest) :
    Backed { state with monitor := .received event, events := rest } := by
  refine backed.turn rfl (fun _ _ => id) ?_ (by simp) backed.respawning
  intro id entry listed way
  rcases way with ⟨exit, member, own⟩ | ⟨exit, busy, _⟩ | ⟨respawns, _⟩
  · rw [queued, List.mem_cons] at member
    rcases member with rfl | later
    · exact .inr (.inl ⟨exit, rfl, own⟩)
    · exact .inl ⟨exit, later, own⟩
  · rw [idle] at busy
    cases busy
  · rw [idle] at respawns
    cases respawns

theorem Backed.wake (backed : Backed state) {config count}
    (sleeps : state.monitor = .sleeping event config count) :
    Backed { state with
      monitor := .respawning
      spawns := state.spawns.insert .monitor
        { pluginId := event.pluginId, config, restartCount := count } } := by
  obtain ⟨manual, decided⟩ := backed.decided event config count sleeps
  refine backed.turn rfl (fun _ _ => id) ?_ (by simp) ?_
  · intro id entry listed way
    refine way.imp_right fun handling => ?_
    obtain ⟨rfl, own⟩ := (handling_attended (by rw [sleeps]; rfl)).mp handling
    exact .inr ⟨rfl, manual, own ▸ decided⟩
  · intro spawn job
    rw [get_insert, if_pos rfl] at job
    cases job
    exact ⟨event.epoch, manual, decided⟩

end Monitor

theorem Backed.report (tracked : Tracked state) (backed : Backed state) {epoch process success}
    (found : state.processes.get epoch = some process) :
    Backed { state with
      processes := state.processes.update epoch (.become .reported)
      events := state.events ++ [{ pluginId := process.pluginId, epoch, success }] } := by
  refine ⟨?_, backed.decided, backed.respawning⟩
  intro id entry listed
  by_cases own : entry.epoch = epoch
  · have known := tracked.entries id entry listed
    rw [own, owner, found] at known
    obtain ⟨named, _⟩ := Prod.mk.inj (Option.some.inj known)
    exact .inr (.inl ⟨_, List.mem_append_right _ (List.mem_singleton.mpr rfl), named, own.symm⟩)
  · rw [status_become, if_neg own]
    refine (backed.entries id entry listed).imp_right (Or.imp_left ?_)
    rintro ⟨exit, member, same⟩
    exact ⟨exit, List.mem_append_left _ member, same⟩

theorem Backed.released {task : Task} {spawn : Spawn} {epoch : Nat} (tracked : Tracked state)
    (backed : Backed state)
    (job : state.spawns.get task = some spawn) {released : PluginSupervisor}
    (monitor : released.monitor = state.monitor) (history : released.history = state.history) {id : String}
    (other : id ≠ spawn.pluginId) (handling : Handling state id epoch) :
    Handling (released.release task) id epoch := by
  rw [Handling, release_monitor, release_history, history]
  split
  next same =>
    subst same
    obtain ⟨last, manual, decided⟩ := backed.respawning spawn job
    rw [Handling, tracked.respawning spawn job, decided] at handling
    rcases handling with ⟨exit, busy, _⟩ | ⟨_, _, mine⟩
    · cases busy
    · cases mine
      exact absurd rfl other
  · rw [monitor]
    exact handling

theorem Backed.insert {task : Task} {spawn : Spawn} {epoch : Nat} (tracked : Tracked state)
    (unreaped : Unreaped state) (backed : Backed state)
    (job : state.spawns.get task = some spawn) (made : spawn.created = some epoch) :
    Backed ({ state with
      entries := state.entries.insert spawn.pluginId
        { config := spawn.config, restartCount := spawn.restartCount, epoch }
      processes := state.processes.update epoch .watch }.release task) := by
  have alive := unreaped epoch spawn.pluginId (tracked.jobs task spawn epoch job made)
  rw [gone_eq] at alive
  refine ⟨?_, ?_, ?_⟩
  · intro id entry listed
    rw [release_entries, get_insert] at listed
    rw [release_processes, status_watch]
    split at listed
    · cases listed
      left
      intro final
      rw [final] at alive
      cases alive
    next other =>
      refine (backed.entries id entry listed).imp_right (Or.imp ?_ ?_)
      · rw [ExitQueued, ExitQueued, release_events]
        exact fun queued => queued
      · intro handling
        exact backed.released tracked job (by rfl) (by rfl) other handling
  · intro event config count sleeps
    rw [release_monitor] at sleeps
    rw [release_history]
    split at sleeps
    · cases sleeps
    · exact backed.decided event config count sleeps
  · intro respawn rejob
    rw [release_spawns, get_erase] at rejob
    rw [release_history]
    split at rejob
    · cases rejob
    · exact backed.respawning respawn rejob

theorem Backed.moves (tracked : Tracked state) (retired : Retired state) (unreaped : Unreaped state)
    (backed : Backed state) (guarded : respawnsSucceed state action = true)
    (moves : Moves state action next) : Backed next := by
  cases moves with
  | spawnPlugin | refused | restarted | recorded | cleared | returned | flagged =>
    exact backed.keep (fun _ _ => id) (fun _ _ _ => id) rfl rfl (by simp [decisionOf])
      (fun spawn job => ⟨spawn, job, rfl⟩)
  | admitted called absent =>
    refine backed.keep (fun _ _ => id) (fun _ _ _ => id) rfl rfl rfl ?_
    grind
  | stopped free listed =>
    refine backed.keep ?_ (fun _ _ _ => id) rfl rfl (by simp [decisionOf]) (fun spawn job => ⟨spawn, job, rfl⟩)
    grind
  | unstoppable | unrestartable => exact backed
  | created job new =>
    refine backed.keep (fun _ _ => id) ?_ rfl rfl (by simp [decisionOf]) ?_
    · -- the new process is that of no entry
      have fresh := tracked.fresh
      have listed := tracked.entries
      grind
    · grind
  | @uncreated task spawn job new =>
    cases task with
    | monitor => cases guarded
    | call number =>
      refine backed.keep (by simp) (by simp) (by simp) (by simp) (by simp) ?_
      grind
  | @failed task late spawn epoch job made ended =>
    cases task with
    | monitor => cases guarded
    | call number =>
      refine backed.keep (by simp) (by simp) (by simp) (by simp) (by simp) ?_
      grind
  | inserted job made => exact backed.insert tracked unreaped job made
  | exited found running =>
    refine backed.keep (fun _ _ => id) ?_ rfl rfl (by simp [decisionOf]) (fun spawn job => ⟨spawn, job, rfl⟩)
    exact fun _ _ _ => reported_become _ _ _ (by simp)
  | reaped found ended watched =>
    refine backed.keep (fun _ _ => id) ?_ rfl rfl rfl (fun spawn job => ⟨spawn, job, rfl⟩)
    exact fun _ _ _ => reported_become _ _ _ (by simp)
  | reported found ended => exact backed.report tracked found
  | received idle queued => exact backed.receive idle queued
  | taken holds | current holds | unstopped holds | undecided holds | givesUp holds =>
    exact backed.carry tracked (by rw [holds]; rfl) rfl rfl rfl rfl rfl (by simp)
  | restarts holds listed =>
    refine backed.carry tracked (by rw [holds]; rfl) rfl rfl rfl rfl rfl ?_
    intro exit config count sleeps
    cases sleeps
    simp [decisionOf]
  | stale holds other => exact backed.drop tracked (by rw [holds]; rfl) rfl (fun _ _ => id) rfl rfl (by simp) other
  | stoppedBefore holds recorded | cancelled holds recorded =>
    refine backed.drop tracked (by rw [holds]; rfl) rfl (fun _ _ => id) rfl rfl (by simp) ?_
    exact fun entry listed => retired.stopped _ _ recorded _ entry listed
  | woken holds => exact backed.wake holds
  | forgotten holds =>
    refine backed.drop tracked (by rw [holds]; rfl) rfl ?_ rfl rfl (by simp) ?_
    · intro id entry listed
      exact (get_erase_eq_some.mp listed).2
    · intro entry listed
      exact absurd rfl (get_erase_eq_some.mp listed).1
  | counted holds =>
    refine backed.turn rfl (fun _ _ => id) ?_ (by simp) backed.respawning
    intro id entry listed way
    refine way.imp_right ?_
    simp [Handling, holds, attended]

/-- In every state, a registered instance runs, or its exit is queued or being handled,
unless its wait task has yet to report it. -/
theorem entry_backed (state : PluginSupervisor) (run : Run PluginSupervisor.step respawnsSucceed {} state)
    (id : String) (entry : PluginEntry) (listed : state.entries.get id = some entry)
    (settled : ∀ success, state.processes.status entry.epoch ≠ some (.exited success) ∧
      state.processes.status entry.epoch ≠ some (.reaped success)) :
    state.processes.runs entry.epoch = true ∨ ExitQueued state id entry.epoch ∨
      Handling state id entry.epoch := by
  have valid : Tracked state ∧ Retired state ∧ Unreaped state ∧ Backed state := by
    apply run.preserves ⟨tracked_empty, retired_empty, unreaped_empty, backed_empty⟩
    intro state action next allowed step holds
    obtain ⟨tracked, retired, unreaped, backed⟩ := holds
    have moves := step_moves step
    exact ⟨tracked.moves moves, retired.moves tracked moves, unreaped.moves moves,
      backed.moves tracked retired unreaped allowed moves⟩
  obtain ⟨tracked, _, _, backed⟩ := valid
  refine (backed.entries id entry listed).imp_left fun unreported => ?_
  have known : (state.processes.status entry.epoch).isSome = true := by
    rw [status_isSome, tracked.entries id entry listed]
    rfl
  obtain ⟨status, found⟩ := Option.isSome_iff_exists.mp known
  cases status with
  | running => simp [Processes.runs, found]
  | exited success => exact absurd found (settled success).1
  | reaped success => exact absurd found (settled success).2
  | reported => exact absurd found unreported

def inBackoff : List Action := starts 1 persistent ++ dies 1 ++ decides

def inBackoffEnd : PluginSupervisor := (exec PluginSupervisor.step respawnsSucceed {} inBackoff).get (by decide +kernel)

def inBackoffEntry : PluginEntry := (inBackoffEnd.entries.get "notes").get (by decide +kernel)

theorem entry_backed_backoff : inBackoffEnd.processes.runs 1 = true ∨ ExitQueued inBackoffEnd "notes" 1 ∨
    Handling inBackoffEnd "notes" 1 :=
  entry_backed inBackoffEnd (exec_get_run (by decide +kernel)) "notes" inBackoffEntry (Option.some_get _).symm
    (by decide +kernel)

def respawnFailsEnd : PluginSupervisor :=
  (exec PluginSupervisor.step unguarded {} (inBackoff ++ [.wake, .create .monitor false])).get (by decide +kernel)

/-- The respawn fails. The dead instance stays registered, and nobody will ever deal
with it. -/
theorem dead_entry_left : Run PluginSupervisor.step unguarded {} respawnFailsEnd ∧
    (respawnFailsEnd.entries.get "notes").map PluginEntry.epoch = some 1 ∧
    respawnFailsEnd.processes.status 1 = some .reported ∧ respawnFailsEnd.events = [] ∧ respawnFailsEnd.monitor = .idle ∧
    respawnFailsEnd.spawns.values = [] ∧ respawnFailsEnd.calls.values = [] := by
  refine ⟨exec_get_run (by decide +kernel), ?_⟩
  decide +kernel

end Vynkor.Proofs
