import Vynkor.Orchestrator
import Vynkor.Signals

/-! The graceful shutdown, as one task runs it while the others stand still: notices to
the registered plugins, and then signals to the supervised processes. -/

namespace Vynkor
open Supervisor (PluginSupervisor Signal)

namespace Supervisor

/-- A signal to an instance, and the seconds that pass before it. -/
structure Sending where
  signal : Signal
  epoch : Nat
  delay : UInt32 := 0
  deriving DecidableEq

def PluginEntry.grace (entry : PluginEntry) (defaultGraceSeconds : UInt32) : UInt32 :=
  if 0 < entry.config.graceSeconds then entry.config.graceSeconds else defaultGraceSeconds

namespace PluginSupervisor
variable (supervisor : PluginSupervisor) (defaultGraceSeconds : UInt32)

def graceSecondsFor (pluginId : String) : Option UInt32 :=
  ((supervisor.entries.get pluginId).map fun entry => entry.config.graceSeconds).filter (0 < ·)

/-- SIGTERM to all, and SIGKILL to each at the end of its grace period. -/
def gracefulShutdown : List Sending :=
  let entries := supervisor.entries.values
  if entries.isEmpty then []
  else entries.map (fun entry => { signal := .term, epoch := entry.epoch }) ++
    entries.map (fun entry => { signal := .kill, epoch := entry.epoch, delay := entry.grace defaultGraceSeconds })

end PluginSupervisor

theorem PluginSupervisor.mem_gracefulShutdown {supervisor : PluginSupervisor} {defaultGraceSeconds : UInt32} {sending} :
    sending ∈ supervisor.gracefulShutdown defaultGraceSeconds ↔ ∃ entry ∈ supervisor.entries.values,
      sending = ⟨.term, entry.epoch, 0⟩ ∨ sending = ⟨.kill, entry.epoch, entry.grace defaultGraceSeconds⟩ := by
  simp only [PluginSupervisor.gracefulShutdown]
  split
  next empty => simp [List.isEmpty_iff.mp empty]
  · rw [List.mem_append, List.mem_map, List.mem_map]
    constructor
    · rintro (⟨entry, member, rfl⟩ | ⟨entry, member, rfl⟩)
      · exact ⟨entry, member, .inl rfl⟩
      · exact ⟨entry, member, .inr rfl⟩
    · rintro ⟨entry, member, rfl | rfl⟩
      · exact .inl ⟨entry, member, rfl⟩
      · exact .inr ⟨entry, member, rfl⟩

end Supervisor

namespace Kernel
variable {β : Type} (ctx : Context β) (supervisor : PluginSupervisor) (defaultGraceSeconds : UInt32)

/-- Tells the plugin its grace period; none if the message cannot be encoded. -/
def shutdownNotice (pluginId : String) : Option (Outbound β) :=
  let grace := (supervisor.graceSecondsFor pluginId).getD defaultGraceSeconds
  (ctx.wire.encode { payload := some (.pluginShutdown "kernel shutdown" grace) }).map fun payload =>
    .frame (buildFrame ctx.wire "self" 0 payload)

/-- A send that waits for room does not wait. -/
def passes (net : Mailboxes Sender (Outbound β)) (tx : Sender) : Bool :=
  (net tx).closed || net.hasRoom writeCapacity tx

/-- Sends the notices one after the other. A full channel holds all up; the error names
it. A closed one is passed over. -/
def notifyAll : List PluginEntry → Mailboxes Sender (Outbound β) → Except Sender (Mailboxes Sender (Outbound β))
  | [], net => .ok net
  | entry :: rest, net =>
    match shutdownNotice ctx supervisor defaultGraceSeconds entry.pluginId with
    | none => notifyAll rest net
    | some notice =>
      if passes net entry.writeTx then notifyAll rest (net.send entry.writeTx notice)
      else .error entry.writeTx

/-- The channel it waits for, or the channels and the signals once it has returned. -/
def gracefulShutdown (registry : PluginRegistry) (net : Mailboxes Sender (Outbound β)) :
    Except Sender (Mailboxes Sender (Outbound β) × List Supervisor.Sending) :=
  if registry.list.isEmpty then .ok (net, [])
  else
    match notifyAll ctx supervisor defaultGraceSeconds registry.list net with
    | .ok net => .ok (net, supervisor.gracefulShutdown defaultGraceSeconds)
    | .error tx => .error tx

end Kernel
end Vynkor
