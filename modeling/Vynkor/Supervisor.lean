import Vynkor.Data.DashMap

/-! The plugin supervisor, one map operation at a time: the calls of its interface,
`spawn_internal` in its three parts, the monitor loop, and the processes with the
task that waits for each of them. -/

namespace Vynkor.Supervisor

inductive RestartPolicy where
  | always
  | onFailure
  | never
  deriving DecidableEq

structure PluginConfig where
  restartPolicy : RestartPolicy := .onFailure
  maxRestarts : UInt32 := 0
  /-- Runs under a shim that has to report the plugin's pid first. -/
  sandbox : Bool := false
  /-- Zero stands for the default. -/
  graceSeconds : UInt32 := 0
  deriving DecidableEq

structure PluginEntry where
  config : PluginConfig
  restartCount : UInt32
  epoch : Nat
  deriving DecidableEq

structure ExitEvent where
  pluginId : String
  epoch : Nat
  success : Bool
  deriving DecidableEq

/-- The wait task reaps a process that has exited, which ends a stop that waits for
it, and then reports the exit to the monitor. -/
inductive Status where
  | running
  | exited (success : Bool)
  | reaped (success : Bool)
  | reported
  deriving DecidableEq

structure Process where
  pluginId : String
  status : Status := .running
  /-- Has a wait task. -/
  watched : Bool := false
  deriving DecidableEq

def Process.become (status : Status) (process : Process) : Process := { process with status }

def Process.watch (process : Process) : Process := { process with watched := true }

/-- The processes by their epochs. -/
abbrev Processes := DashMap Nat Process

namespace Processes

def status (processes : Processes) (epoch : Nat) : Option Status := (processes.get epoch).map Process.status

def runs (processes : Processes) (epoch : Nat) : Bool := processes.status epoch == some .running

def gone (processes : Processes) (epoch : Nat) : Bool :=
  match processes.status epoch with
  | some (.reaped _) | some .reported => true
  | _ => false

end Processes

/-- Who runs `spawn_internal`. -/
inductive Task where
  | monitor
  | call (number : Nat)
  deriving DecidableEq

/-- `spawn_internal` past its check. -/
structure Spawn where
  pluginId : String
  config : PluginConfig
  restartCount : UInt32 := 0
  created : Option Nat := none
  deriving DecidableEq

/-- A call that has not returned, before its next operation. -/
inductive Call where
  | spawn (pluginId : String) (config : PluginConfig)
  | spawning
  | recording (pluginId : String) (epoch : Nat)
  | clearing (pluginId : String) (epoch : Nat)
  | waiting (pluginId : String) (epoch : Nat)
  | flagging (pluginId : String) (epoch : Nat)
  deriving DecidableEq

/-- The monitor loop, before its next operation. -/
inductive Monitor where
  | idle
  | received (event : ExitEvent)
  | taken (event : ExitEvent) (forced : Bool)
  | current (event : ExitEvent) (forced : Bool)
  | unstopped (event : ExitEvent) (forced : Bool)
  /-- The event of the death is published, and then the backoff passes. -/
  | sleeping (event : ExitEvent) (config : PluginConfig) (restartCount : UInt32)
  | respawning
  | forgetting (event : ExitEvent)
  | counting (pluginId : String) (restartCount : UInt32)
  deriving DecidableEq

/-- What has happened, in the order in which it did. -/
inductive Event where
  | spawnCalled (pluginId : String)
  | created (pluginId : String) (epoch : Nat)
  /-- A stop has taken the entry away. -/
  | stopCalled (pluginId : String)
  | stopReturned (pluginId : String)
  /-- A restart has found this instance registered. -/
  | restartCalled (pluginId : String) (epoch : Nat)
  | exited (pluginId : String) (epoch : Nat)
  /-- The monitor has ignored an exit, or has decided on it. -/
  | handled (pluginId : String) (epoch : Nat) (manual : Bool)
  deriving DecidableEq

structure PluginSupervisor where
  entries : DashMap String PluginEntry := ∅
  forcedRestarts : DashMap String Unit := ∅
  stoppedCounts : DashMap String UInt32 := ∅
  stoppedEpochs : DashMap String Nat := ∅
  nextEpoch : Nat := 0
  events : List ExitEvent := []
  processes : Processes := ∅
  spawns : DashMap Task Spawn := ∅
  calls : DashMap Nat Call := ∅
  monitor : Monitor := .idle
  history : List Event := []

namespace PluginSupervisor
variable (state : PluginSupervisor)

def eventCapacity : Nat := 64

def note (event : Event) : PluginSupervisor := { state with history := state.history ++ [event] }

def release (task : Task) : PluginSupervisor :=
  let state := { state with spawns := state.spawns.erase task }
  match task with
  | .monitor => { state with monitor := .idle }
  | .call number => { state with calls := state.calls.erase number }

def setStatus (epoch : Nat) (status : Status) : PluginSupervisor :=
  { state with processes := state.processes.update epoch (.become status) }

def spawnPlugin (number : Nat) (pluginId : String) (config : PluginConfig) : Option PluginSupervisor :=
  match state.calls.get number with
  | some _ => none
  | none => some ({ state with
      calls := state.calls.insert number (.spawn pluginId config) }.note (.spawnCalled pluginId))

/-- The check of a route-level start. A supervised restart goes without. -/
def check (number : Nat) : Option PluginSupervisor :=
  match state.calls.get number with
  | some (.spawn pluginId config) =>
    if state.entries.containsKey pluginId then some { state with calls := state.calls.erase number }
    else some { state with
      calls := state.calls.insert number .spawning
      spawns := state.spawns.insert (.call number) { pluginId, config } }
  | _ => none

def create (task : Task) (ok : Bool) : Option PluginSupervisor :=
  match state.spawns.get task with
  | some spawn =>
    match spawn.created with
    | some _ => none
    | none =>
      let epoch := state.nextEpoch + 1
      let state := { state with nextEpoch := epoch }
      if ok then
        some ({ state with
          processes := state.processes.insert epoch { pluginId := spawn.pluginId }
          spawns := state.spawns.insert task { spawn with created := some epoch } }.note
            (.created spawn.pluginId epoch))
      else some (state.release task)
  | none => none

def insertEntry (task : Task) : Option PluginSupervisor :=
  match state.spawns.get task with
  | some spawn =>
    match spawn.created with
    | some epoch =>
      some ({ state with
        entries := state.entries.insert spawn.pluginId
          { config := spawn.config, restartCount := spawn.restartCount, epoch }
        processes := state.processes.update epoch .watch }.release task)
    | none => none
  | none => none

/-- The shim reports no pid, so it is killed and waited for. If it is only late, the
process is left to itself. -/
def failHandshake (task : Task) (late : Bool) : Option PluginSupervisor :=
  match state.spawns.get task with
  | some spawn =>
    match spawn.created with
    | some epoch =>
      if spawn.config.sandbox && (late || !state.processes.runs epoch) then some (state.release task)
      else none
    | none => none
  | none => none

def stopPlugin (number : Nat) (pluginId : String) : Option PluginSupervisor :=
  match state.calls.get number with
  | some _ => none
  | none =>
    match state.entries.get pluginId with
    | none => some state
    | some entry => some ({ state with
        entries := state.entries.erase pluginId
        calls := state.calls.insert number (.recording pluginId entry.epoch) }.note (.stopCalled pluginId))

def recordStop (number : Nat) : Option PluginSupervisor :=
  match state.calls.get number with
  | some (.recording pluginId epoch) => some { state with
      stoppedEpochs := state.stoppedEpochs.insert pluginId epoch
      calls := state.calls.insert number (.clearing pluginId epoch) }
  | _ => none

def clearForced (number : Nat) : Option PluginSupervisor :=
  match state.calls.get number with
  | some (.clearing pluginId epoch) => some { state with
      forcedRestarts := state.forcedRestarts.erase pluginId
      calls := state.calls.insert number (.waiting pluginId epoch) }
  | _ => none

/-- The process tree is gone, or the final bound has passed. -/
def stopReturn (number : Nat) (late : Bool) : Option PluginSupervisor :=
  match state.calls.get number with
  | some (.waiting pluginId epoch) =>
    if late || state.processes.gone epoch then
      some ({ state with calls := state.calls.erase number }.note (.stopReturned pluginId))
    else none
  | _ => none

def restartPlugin (number : Nat) (pluginId : String) : Option PluginSupervisor :=
  match state.calls.get number with
  | some _ => none
  | none =>
    match state.entries.get pluginId with
    | none => some state
    | some entry => some ({ state with
        calls := state.calls.insert number (.flagging pluginId entry.epoch) }.note
          (.restartCalled pluginId entry.epoch))

/-- The signal that follows changes nothing here: a process may exit at any time. -/
def flagForced (number : Nat) : Option PluginSupervisor :=
  match state.calls.get number with
  | some (.flagging pluginId _) => some { state with
      forcedRestarts := state.forcedRestarts.insert pluginId ()
      calls := state.calls.erase number }
  | _ => none

def exit (epoch : Nat) (success : Bool) : Option PluginSupervisor :=
  match state.processes.get epoch with
  | some process =>
    if process.status = .running then
      some ((state.setStatus epoch (.exited success)).note (.exited process.pluginId epoch))
    else none
  | none => none

def reap (epoch : Nat) : Option PluginSupervisor :=
  match state.processes.get epoch with
  | some { status := .exited success, watched := true, .. } => some (state.setStatus epoch (.reaped success))
  | _ => none

def report (epoch : Nat) : Option PluginSupervisor :=
  match state.processes.get epoch with
  | some { pluginId, status := .reaped success, .. } =>
    if state.events.length < eventCapacity then
      some { state.setStatus epoch .reported with
        events := state.events ++ [{ pluginId, epoch, success }] }
    else none
  | _ => none

def receive : Option PluginSupervisor :=
  match state.monitor, state.events with
  | .idle, event :: rest => some { state with monitor := .received event, events := rest }
  | _, _ => none

def takeForced : Option PluginSupervisor :=
  match state.monitor with
  | .received event => some { state with
      monitor := .taken event (state.forcedRestarts.containsKey event.pluginId)
      forcedRestarts := state.forcedRestarts.erase event.pluginId }
  | _ => none

def ignore (event : ExitEvent) : PluginSupervisor :=
  { state with monitor := .idle }.note (.handled event.pluginId event.epoch false)

def isCurrent : Option PluginSupervisor :=
  match state.monitor with
  | .taken event forced =>
    if (state.entries.get event.pluginId).any (·.epoch == event.epoch) then
      some { state with monitor := .current event forced }
    else some (state.ignore event)
  | _ => none

def wasStopped : Option PluginSupervisor :=
  match state.monitor with
  | .current event forced =>
    if state.stoppedEpochs.get event.pluginId = some event.epoch then some (state.ignore event)
    else some { state with monitor := .unstopped event forced }
  | _ => none

/-- Whether to restart, by the entry that is there now. -/
def shouldRestart (entry : PluginEntry) (forced success : Bool) : Bool :=
  forced || match entry.config.restartPolicy with
    | .never => false
    | .always => entry.restartCount < entry.config.maxRestarts
    | .onFailure => !success && entry.restartCount < entry.config.maxRestarts

def decision : Option PluginSupervisor :=
  match state.monitor with
  | .unstopped event forced =>
    match state.entries.get event.pluginId with
    | none => some ({ state with monitor := .forgetting event }.note (.handled event.pluginId event.epoch false))
    | some entry =>
      let monitor := if shouldRestart entry forced event.success then
          .sleeping event entry.config (entry.restartCount + 1)
        else .forgetting event
      some ({ state with monitor }.note (.handled event.pluginId event.epoch forced))
  | _ => none

/-- A stop during the backoff cancels the restart. -/
def wake : Option PluginSupervisor :=
  match state.monitor with
  | .sleeping event config restartCount =>
    if state.stoppedEpochs.get event.pluginId = some event.epoch then some { state with monitor := .idle }
    else some { state with
      monitor := .respawning
      spawns := state.spawns.insert .monitor { pluginId := event.pluginId, config, restartCount } }
  | _ => none

def forget : Option PluginSupervisor :=
  match state.monitor with
  | .forgetting event => some { state with
      monitor := .counting event.pluginId ((state.entries.get event.pluginId).elim 0 PluginEntry.restartCount)
      entries := state.entries.erase event.pluginId }
  | _ => none

def countStopped : Option PluginSupervisor :=
  match state.monitor with
  | .counting pluginId restartCount => some { state with
      monitor := .idle
      stoppedCounts := state.stoppedCounts.insert pluginId restartCount }
  | _ => none

end PluginSupervisor

/-- One operation of one task, or something that happens to a process. -/
inductive Action where
  | spawnPlugin (number : Nat) (pluginId : String) (config : PluginConfig)
  | check (number : Nat)
  | create (task : Task) (ok : Bool)
  | insertEntry (task : Task)
  | failHandshake (task : Task) (late : Bool)
  | stopPlugin (number : Nat) (pluginId : String)
  | recordStop (number : Nat)
  | clearForced (number : Nat)
  | stopReturn (number : Nat) (late : Bool)
  | restartPlugin (number : Nat) (pluginId : String)
  | flagForced (number : Nat)
  | exit (epoch : Nat) (success : Bool)
  | reap (epoch : Nat)
  | report (epoch : Nat)
  | receive
  | takeForced
  | isCurrent
  | wasStopped
  | decision
  | wake
  | forget
  | countStopped
  deriving DecidableEq

def PluginSupervisor.step (state : PluginSupervisor) : Action → Option PluginSupervisor
  | .spawnPlugin number pluginId config => state.spawnPlugin number pluginId config
  | .check number => state.check number
  | .create task ok => state.create task ok
  | .insertEntry task => state.insertEntry task
  | .failHandshake task late => state.failHandshake task late
  | .stopPlugin number pluginId => state.stopPlugin number pluginId
  | .recordStop number => state.recordStop number
  | .clearForced number => state.clearForced number
  | .stopReturn number late => state.stopReturn number late
  | .restartPlugin number pluginId => state.restartPlugin number pluginId
  | .flagForced number => state.flagForced number
  | .exit epoch success => state.exit epoch success
  | .reap epoch => state.reap epoch
  | .report epoch => state.report epoch
  | .receive => state.receive
  | .takeForced => state.takeForced
  | .isCurrent => state.isCurrent
  | .wasStopped => state.wasStopped
  | .decision => state.decision
  | .wake => state.wake
  | .forget => state.forget
  | .countStopped => state.countStopped

end Vynkor.Supervisor
