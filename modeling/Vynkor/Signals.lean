import Vynkor.Supervisor

/-! The signals of the supervisor: `stop_plugin`, `restart_plugin`, `graceful_shutdown`
and the watchdog with their timers, next to what the supervisor does. A signal goes to
the process id of an instance, which is free once the wait task has waited for it. -/

namespace Vynkor.Supervisor

inductive Signal where
  | term
  | kill
  deriving DecidableEq

/-- What concerns process ids, in the order in which it happened. -/
inductive Trace where
  | sent (signal : Signal) (epoch : Nat)
  | exited (epoch : Nat)
  /-- `child.wait()` has returned. -/
  | waited (epoch : Nat)
  /-- `graceful_shutdown` has sent its SIGTERMs. -/
  | terminated
  /-- `graceful_shutdown` has started its timers. -/
  | armed
  deriving DecidableEq

def Action.traces : Action → List Trace
  | .exit epoch _ => [.exited epoch]
  | _ => []

/-- An iteration of the entries, which comes to every id that stays and perhaps to
others. -/
structure Sweep where
  left : List String
  seen : List String := []
  deriving DecidableEq

def Sweep.visit (sweep : Sweep) (id : String) : Option Sweep :=
  if id ∈ sweep.seen then none else some { left := sweep.left.erase id, seen := id :: sweep.seen }

inductive Shutdown where
  | off
  | terminating (sweep : Sweep)
  | arming (sweep : Sweep)
  | awaiting
  | returned
  deriving DecidableEq

structure Signalling where
  supervisor : PluginSupervisor := {}
  /-- The calls that have yet to send SIGTERM. -/
  terms : DashMap Nat Nat := ∅
  /-- The stops that have sent SIGKILL. -/
  escalated : List Nat := []
  shutdown : Shutdown := .off
  /-- The instances that get SIGKILL when their grace period ends. -/
  timers : List Nat := []
  /-- The instances that the watchdog still has to look at. -/
  watchdog : List (String × Nat) := []
  log : List Trace := []

namespace Signalling
variable (state : Signalling)

def note (event : Trace) : Signalling := { state with log := state.log ++ [event] }

def send (signal : Signal) (epoch : Nat) : Signalling := state.note (.sent signal epoch)

def waited (epoch : Nat) : Bool := .waited epoch ∈ state.log

/-- A call sends its SIGTERM before it goes on, a stop gives up on an exit only after
SIGKILL, and the wait task announces an exit only after it has waited. -/
def admits : Action → Bool
  | .spawnPlugin number _ _ | .stopPlugin number _ | .restartPlugin number _ => !state.terms.containsKey number
  | .stopReturn number late => !state.terms.containsKey number && (!late || number ∈ state.escalated)
  | .reap epoch => state.waited epoch
  | _ => true

/-- The SIGTERMs that are due after an operation of a call. -/
def due : Action → DashMap Nat Nat
  | .clearForced number =>
    match state.supervisor.calls.get number with
    | some (.clearing _ epoch) => state.terms.insert number epoch
    | _ => state.terms
  | .flagForced number =>
    match state.supervisor.calls.get number with
    | some (.flagging _ epoch) => state.terms.insert number epoch
    | _ => state.terms
  | _ => state.terms

def remaining : Action → List Nat
  | .stopReturn number _ => state.escalated.erase number
  | _ => state.escalated

def act (action : Action) : Option Signalling :=
  if state.admits action then
    match state.supervisor.step action with
    | some supervisor => some { state with
        supervisor
        terms := state.due action
        escalated := state.remaining action
        log := state.log ++ action.traces }
    | none => none
  else none

def wait (epoch : Nat) : Option Signalling :=
  match state.supervisor.processes.get epoch with
  | some { status := .exited _, watched := true, .. } =>
    if state.waited epoch then none else some (state.note (.waited epoch))
  | _ => none

def terminate (number : Nat) : Option Signalling :=
  match state.terms.get number with
  | some epoch => some ({ state with terms := state.terms.erase number }.send .term epoch)
  | none => none

/-- The exit has not been announced within the grace period of the stop. -/
def escalate (number : Nat) : Option Signalling :=
  match state.supervisor.calls.get number with
  | some (.waiting _ epoch) =>
    if state.terms.containsKey number || number ∈ state.escalated || state.supervisor.processes.gone epoch then none
    else some ({ state with escalated := number :: state.escalated }.send .kill epoch)
  | _ => none

def gracefulShutdown : Option Signalling :=
  match state.shutdown with
  | .off => some { state with
      shutdown := if state.supervisor.entries.keys = [] then .returned
        else .terminating { left := state.supervisor.entries.keys } }
  | _ => none

def termNext (id : String) : Option Signalling :=
  match state.shutdown with
  | .terminating sweep =>
    match sweep.visit id with
    | some sweep =>
      let state := { state with shutdown := .terminating sweep }
      match state.supervisor.entries.get id with
      | some entry => some (state.send .term entry.epoch)
      | none => some state
    | none => none
  | _ => none

def termDone : Option Signalling :=
  match state.shutdown with
  | .terminating { left := [], .. } =>
    some ({ state with shutdown := .arming { left := state.supervisor.entries.keys } }.note .terminated)
  | _ => none

def armNext (id : String) : Option Signalling :=
  match state.shutdown with
  | .arming sweep =>
    match sweep.visit id with
    | some sweep =>
      match state.supervisor.entries.get id with
      | some entry => some { state with shutdown := .arming sweep, timers := entry.epoch :: state.timers }
      | none => some { state with shutdown := .arming sweep }
    | none => none
  | _ => none

def armDone : Option Signalling :=
  match state.shutdown with
  | .arming { left := [], .. } => some ({ state with shutdown := .awaiting }.note .armed)
  | _ => none

def fire (epoch : Nat) : Option Signalling :=
  if epoch ∈ state.timers then some ({ state with timers := state.timers.erase epoch }.send .kill epoch) else none

def shutdownReturn : Option Signalling :=
  match state.shutdown, state.timers with
  | .awaiting, [] => some { state with shutdown := .returned }
  | _, _ => none

def tick : Option Signalling :=
  match state.watchdog with
  | [] => some { state with
      watchdog := state.supervisor.entries.toList.map fun registered => (registered.1, registered.2.epoch) }
  | _ :: _ => none

def inspect (silent : Bool) : Option Signalling :=
  match state.watchdog with
  | (_, epoch) :: rest =>
    let state := { state with watchdog := rest }
    some (if silent then state.send .kill epoch else state)
  | [] => none

end Signalling

/-- One operation of one task. -/
inductive Deed where
  | act (action : Action)
  | wait (epoch : Nat)
  | terminate (number : Nat)
  | escalate (number : Nat)
  | gracefulShutdown
  | termNext (id : String)
  | termDone
  | armNext (id : String)
  | armDone
  | fire (epoch : Nat)
  | shutdownReturn
  | tick
  | inspect (silent : Bool)
  deriving DecidableEq

def Signalling.step (state : Signalling) : Deed → Option Signalling
  | .act action => state.act action
  | .wait epoch => state.wait epoch
  | .terminate number => state.terminate number
  | .escalate number => state.escalate number
  | .gracefulShutdown => state.gracefulShutdown
  | .termNext id => state.termNext id
  | .termDone => state.termDone
  | .armNext id => state.armNext id
  | .armDone => state.armDone
  | .fire epoch => state.fire epoch
  | .shutdownReturn => state.shutdownReturn
  | .tick => state.tick
  | .inspect silent => state.inspect silent

end Vynkor.Supervisor
