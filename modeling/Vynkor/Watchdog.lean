import Vynkor.Orchestrator
import Vynkor.Signals

/-! The watchdog between the kernel and the supervisor: it goes by the pong times of
plugin ids and signals processes. To the router a pong is two steps, the lookup of its
plugin and the record, and other tasks may come in between. -/

namespace Vynkor
open Supervisor (Signalling Deed)

/-- A registration or a pong that the registry has recorded. -/
structure Heard where
  pluginId : String
  conn : Nat
  instant : Nat
  registration : Bool
  deriving DecidableEq

/-- The plugin whose pong the message is, if it comes through to the handler. -/
def RouterState.pongOf {β : Type} (ctx : Context β) (moment : Moment) (msg : IncomingMessage β) (st : RouterState β) :
    Option String :=
  let checked := st.checkIpcRate ctx moment msg
  if checked.2 && ctx.wire.targetAsStr msg.frame.target == some "kernel" && !checked.1.isThrottled ctx msg then
    match ctx.wire.decode msg.frame.payload with
    | some envelope =>
      match envelope.payload with
      | some (.pong _ _) => (st.registry.getByConnId msg.connId).map fun entry => entry.pluginId
      | _ => none
    | none => none
  else none

/-- `ponging` is the connection and the plugin whose pong the router is about to record.
`heard` is what the registry has recorded so far; no task reads it. -/
structure Watched (β : Type) where
  kernel : Kernel β := {}
  signals : Signalling := {}
  ponging : Option (Nat × String) := none
  heard : List Heard := []

inductive WatchAction (β : Type) where
  | kernel (action : Action β)
  | lookUp (moment : Moment)
  | recordPong (moment : Moment)
  | deed (deed : Deed)
  | inspect (now : Nat)

/-- What the watchdog does about a process of its list. A ping is dropped if it cannot be
queued; a plugin that is not registered gets none. -/
inductive WatchVerdict where
  | killed
  | pinged
  | dropped
  | absent
  deriving DecidableEq

structure Visit where
  pluginId : String
  instant : Nat
  verdict : WatchVerdict
  deriving DecidableEq

namespace Kernel
variable {β : Type} (kernel : Kernel β)

def joining : Action β → Option (Nat × Nat)
  | .route moment => kernel.incoming.head?.map fun msg => (msg.connId, moment.instant)
  | .bridgeUp _ _ moment => some (bridgeConnId, moment.instant)
  | _ => none

def joined (action : Action β) (next : Kernel β) : Option Heard :=
  match kernel.joining action with
  | none => none
  | some (conn, instant) =>
    if (kernel.router.registry.getByConnId conn).isSome then none
    else (next.router.registry.getByConnId conn).map fun entry =>
      { pluginId := entry.pluginId, conn, instant, registration := true }

end Kernel

namespace Watched
variable {β : Type} (ctx : Context β) (deadline : Nat) (state : Watched β)

/-- The router is not busy with a pong, and the next message is none. -/
def routerFree : Action β → Bool
  | .route moment => state.ponging.isNone &&
      state.kernel.incoming.head?.all fun msg => (state.kernel.router.pongOf ctx moment msg).isNone
  | .prune _ => state.ponging.isNone
  | _ => true

def kernelStep (action : Action β) : Option (Watched β) :=
  if state.routerFree ctx action then
    match state.kernel.step ctx action with
    | some kernel => some { state with kernel, heard := state.heard ++ (state.kernel.joined action kernel).toList }
    | none => none
  else none

/-- All of the handling of a pong but the record. -/
def lookUp (moment : Moment) : Option (Watched β) :=
  match state.ponging, state.kernel.incoming with
  | none, msg :: rest =>
    match state.kernel.router.pongOf ctx moment msg with
    | some pluginId =>
      let router := (state.kernel.router.routeMessage ctx moment msg).1.setRegistry state.kernel.router.registry
      some { state with kernel := { state.kernel with router, incoming := rest }, ponging := some (msg.connId, pluginId) }
    | none => none
  | _, _ => none

def recordPong (moment : Moment) : Option (Watched β) :=
  match state.ponging with
  | some (conn, pluginId) => some { state with
      kernel := state.kernel.setRouter
        (state.kernel.router.setRegistry (state.kernel.router.registry.recordPong moment pluginId))
      ponging := none
      heard := state.heard ++ [{ pluginId, conn, instant := moment.instant, registration := false }] }
  | none => none

def silent (pluginId : String) (now : Nat) : Bool :=
  (state.kernel.router.registry.pongTimes.get pluginId).any fun last => deadline < now - last

def inspect (now : Nat) : Option (Watched β) :=
  match state.signals.watchdog with
  | (pluginId, _) :: _ =>
    (state.signals.inspect (state.silent deadline pluginId now)).map fun signals => { state with signals }
  | [] => none

def deedStep : Deed → Option (Watched β)
  | .inspect _ => none
  | deed => (state.signals.step deed).map fun signals => { state with signals }

def step : WatchAction β → Option (Watched β)
  | .kernel action => state.kernelStep ctx action
  | .lookUp moment => state.lookUp ctx moment
  | .recordPong moment => state.recordPong moment
  | .deed deed => state.deedStep deed
  | .inspect now => state.inspect deadline now

section Round
variable (moment : Moment)

def verdict (pluginId : String) : WatchVerdict :=
  if state.silent deadline pluginId moment.instant then .killed
  else
    match state.kernel.router.registry.get pluginId with
    | none => .absent
    | some entry =>
      if (ctx.wire.encode { payload := some (.ping moment.unixMillis) }).isSome &&
        state.kernel.router.hasRoom entry.writeTx then .pinged else .dropped

def visit (process : String × Nat) : Watched β :=
  if state.silent deadline process.1 moment.instant then { state with signals := state.signals.send .kill process.2 }
  else { state with kernel := state.kernel.ping ctx process.1 moment }

/-- One round of the loop over the processes of its list, if no other task comes in
between. -/
def round : List (String × Nat) → Watched β → Watched β × List Visit
  | [], state => (state, [])
  | process :: rest, state =>
    let rounded := round rest (state.visit ctx deadline moment process)
    (rounded.1, ⟨process.1, moment.instant, state.verdict ctx deadline moment process.1⟩ :: rounded.2)

def supervised : List (String × Nat) :=
  state.signals.supervisor.entries.toList.map fun registered => (registered.1, registered.2.epoch)

end Round
end Watched
end Vynkor
