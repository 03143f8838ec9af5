import Vynkor.Orchestrator
import Vynkor.Supervisor

/-! The kernel and the supervisor whose monitor loop tells the event bus of every
plugin that died, after it has decided on a restart and before it acts on that. -/

namespace Vynkor
open Supervisor (PluginSupervisor)

def diedEvent (pluginId : String) (restartCount : UInt32) (willRestart : Bool) : Event where
  eventId := s!"sys-died-{pluginId}-{restartCount.toNat}"
  eventType := "system.plugin_died"
  payloadJson := utf8 ("\x7b\"plugin_id\":\"" ++ pluginId ++ "\",\"restart_count\":" ++ toString restartCount.toNat ++
    ",\"will_restart\":" ++ (if willRestart then "true" else "false") ++ "\x7d")
  retryCount := 0

/-- What the monitor loop still has to do before it goes on from its decision: look up
the count of restarts, and publish. -/
inductive DeathNotice where
  | decided (pluginId : String) (willRestart : Bool)
  | counted (pluginId : String) (willRestart : Bool) (restartCount : UInt32)
  deriving DecidableEq

structure Host (β : Type) where
  kernel : Kernel β := {}
  supervisor : PluginSupervisor := {}
  notice : Option DeathNotice := none

inductive HostAction (β : Type) where
  | kernel (action : Action β)
  | supervise (action : Supervisor.Action)
  | count
  | announce (now : Moment)

namespace Host
variable {β : Type} (ctx : Context β) (host : Host β)

/-- Only the monitor loop publishes that a plugin died. -/
def runKernel (action : Action β) : Option (Host β) :=
  match action with
  | .publishDied .. => none
  | action => (host.kernel.step ctx action).map fun kernel => { host with kernel }

def noticeOf : Supervisor.Monitor → Option DeathNotice
  | .sleeping event _ _ => some (.decided event.pluginId true)
  | .forgetting event => some (.decided event.pluginId false)
  | _ => none

def supervise (action : Supervisor.Action) : Option (Host β) :=
  match action with
  | .decision => (host.supervisor.step .decision).map fun supervisor =>
      { host with supervisor, notice := noticeOf supervisor.monitor }
  | .wake | .forget =>
    if host.notice.isSome then none
    else (host.supervisor.step action).map fun supervisor => { host with supervisor }
  | action => (host.supervisor.step action).map fun supervisor => { host with supervisor }

def count : Option (Host β) :=
  match host.notice with
  | some (.decided pluginId willRestart) =>
    let restartCount := (host.supervisor.entries.get pluginId).elim 0 Supervisor.PluginEntry.restartCount
    some { host with notice := some (.counted pluginId willRestart restartCount) }
  | _ => none

def announce (now : Moment) : Option (Host β) :=
  match host.notice with
  | some (.counted pluginId willRestart restartCount) =>
    (host.kernel.step ctx (.publishDied (diedEvent pluginId restartCount willRestart) now)).map fun kernel =>
      { host with kernel, notice := none }
  | _ => none

def step : HostAction β → Option (Host β)
  | .kernel action => host.runKernel ctx action
  | .supervise action => host.supervise action
  | .count => host.count
  | .announce now => host.announce ctx now

end Host
end Vynkor
