import Vynkor.Bridge
import Vynkor.Data.Execution
import Vynkor.Loader

/-! The running kernel: connections, the router task and its queue, one
disconnect loop for each kind of connection, the plugin manager, the supervisor
and the bridge. The tasks run concurrently; a run is any interleaving of their
steps. The router handles a message in one step; a disconnect loop takes a step
for each of its operations on the shared maps. -/

namespace Vynkor

inductive Transport where
  | uds | ws
  deriving DecidableEq

structure Connection where
  transport : Transport
  ended : Bool := false
  deriving DecidableEq

/-- How far the handling of a disconnect has come. -/
inductive Stage where
  | found | published | unsubscribed
  deriving DecidableEq

/-- A disconnect whose plugin has been looked up and is not unregistered yet. -/
structure Leaving where
  connId : Nat
  pluginId : String
  stage : Stage
  deriving DecidableEq

structure DisconnectLoop where
  queue : List Nat := []
  hand : Option Leaving := none
  deriving DecidableEq

def disconnectCapacity : Nat := 64

/-- `link` names the device and the channel of the bridge connection that is up. -/
structure Kernel (β : Type) where
  router : RouterState β := {}
  incoming : List (IncomingMessage β) := []
  loops : Transport → DisconnectLoop := fun _ => {}
  connections : DashMap Nat Connection := ∅
  link : Option (String × Nat) := none
  cycles : Nat := 0

/-- One step of one task. -/
inductive Action (β : Type) where
  | accept (conn : Nat) (transport : Transport)
  | receive (msg : IncomingMessage β)
  | hangup (conn : Nat)
  | route (now : Moment)
  | prune (now : Moment)
  | take (transport : Transport)
  | publishLeft (transport : Transport) (now : Moment)
  | unsubscribe (transport : Transport)
  | unregister (transport : Transport)
  | stop (pluginId : String)
  | spawn (pluginId : String)
  | declare (pluginId : String) (events : List String)
  | publishDied (event : Event) (now : Moment)
  | ping (pluginId : String) (now : Moment)
  | drain (tx : Sender)
  | close (tx : Sender)
  | bridgeUp (deviceId : String) (mirror : List String) (now : Moment)
  | bridgeDown

namespace Kernel
variable {β : Type} (ctx : Context β) (kernel : Kernel β)

def setLoop (transport : Transport) (loop : DisconnectLoop) : Kernel β :=
  { kernel with loops := fun other => if other = transport then loop else kernel.loops other }

def setRouter (router : RouterState β) : Kernel β := { kernel with router }

/-- Connection ids are never used twice, and the bridge has its own. -/
def accept (conn : Nat) (transport : Transport) : Option (Kernel β) :=
  if kernel.connections.get conn = none ∧ conn ≠ bridgeConnId then
    some { kernel with connections := kernel.connections.insert conn { transport } }
  else none

/-- The connection is open and `tx` is its own write channel. -/
def isOpen (conn : Nat) (tx : Sender) : Bool :=
  match kernel.connections.get conn with
  | some connection => !connection.ended && tx == { conn }
  | none => conn == bridgeConnId && kernel.link.any fun (_, serial) => tx == hostTx serial

/-- A connection puts a frame it read on the shared router queue. -/
def receive (msg : IncomingMessage β) : Option (Kernel β) :=
  if kernel.isOpen msg.connId msg.writeTx ∧ kernel.incoming.length < ctx.routerChannelCapacity then
    some { kernel with incoming := kernel.incoming ++ [msg] }
  else none

/-- The handler of a connection ends and puts its id on the disconnect queue. -/
def hangup (conn : Nat) : Option (Kernel β) :=
  match kernel.connections.get conn with
  | none => none
  | some connection =>
    let loop := kernel.loops connection.transport
    if connection.ended ∨ disconnectCapacity ≤ loop.queue.length then none
    else some ({ kernel with
      connections := kernel.connections.insert conn { connection with ended := true } }.setLoop connection.transport
        { loop with queue := loop.queue ++ [conn] })

def route (now : Moment) : Option (Kernel β) :=
  match kernel.incoming with
  | [] => none
  | msg :: rest => some { kernel with router := (kernel.router.routeMessage ctx now msg).1, incoming := rest }

/-- A disconnect loop takes a connection id and looks up its plugin; an id
without one is dropped. -/
def take (transport : Transport) : Option (Kernel β) :=
  match kernel.loops transport with
  | { queue := conn :: rest, hand := none } =>
    match kernel.router.registry.getByConnId conn with
    | none => some (kernel.setLoop transport { queue := rest })
    | some entry => some (kernel.setLoop transport
        { queue := rest, hand := some { connId := conn, pluginId := entry.pluginId, stage := .found } })
  | _ => none

/-- The loop has a disconnect in hand that has come to the given stage. -/
def inHand (transport : Transport) (stage : Stage) : Option Leaving :=
  (kernel.loops transport).hand.filter fun leaving => leaving.stage == stage

def setHand (transport : Transport) (hand : Option Leaving) : Kernel β :=
  kernel.setLoop transport { kernel.loops transport with hand }

def leftEvent (now : Moment) (pluginId : String) : Event where
  eventId := s!"sys-left-{pluginId}-{now.unixMillis}"
  eventType := "system.plugin_left"
  payloadJson := ctx.lifecyclePayload kernel.router.registry pluginId
  retryCount := 0

def publishLeft (transport : Transport) (now : Moment) : Option (Kernel β) :=
  (kernel.inHand transport .found).map fun leaving =>
    (kernel.setRouter (kernel.router.publish ctx now (kernel.leftEvent ctx now leaving.pluginId))).setHand
      transport (some { leaving with stage := .published })

def unsubscribe (transport : Transport) : Option (Kernel β) :=
  (kernel.inHand transport .published).map fun leaving =>
    (kernel.setRouter { kernel.router with bus := kernel.router.bus.unsubscribeAll leaving.pluginId }).setHand
      transport (some { leaving with stage := .unsubscribed })

def unregister (transport : Transport) : Option (Kernel β) :=
  (kernel.inHand transport .unsubscribed).map fun leaving =>
    (kernel.setRouter (kernel.router.setRegistry (kernel.router.registry.unregister leaving.pluginId))).setHand
      transport none

def stop (pluginId : String) : Kernel β :=
  kernel.setRouter (kernel.router.setRegistry (kernel.router.registry.unregister pluginId))

/-- The loader subscribes a spawned plugin to the events of its manifest. -/
def declare (pluginId : String) (events : List String) : Kernel β :=
  kernel.setRouter { kernel.router with bus := kernel.router.bus.subscribe pluginId events }

def ping (pluginId : String) (now : Moment) : Kernel β :=
  match kernel.router.registry.get pluginId with
  | none => kernel
  | some entry =>
    match ctx.wire.encode { payload := some (.ping now.unixMillis) } with
    | none => kernel
    | some payload =>
      kernel.setRouter (kernel.router.trySend entry.writeTx (.frame (buildFrame ctx.wire "client" 0 payload))).1

def bridgeUp (deviceId : String) (mirror : List String) (now : Moment) : Option (Kernel β) :=
  if kernel.link.isSome then none
  else
    match kernel.router.bridgeUp now deviceId kernel.cycles mirror with
    | .error _ => none
    | .ok router => some { kernel with router, link := some (deviceId, kernel.cycles), cycles := kernel.cycles + 1 }

def bridgeDown : Option (Kernel β) :=
  kernel.link.map fun (deviceId, serial) =>
    { kernel with router := kernel.router.bridgeDown deviceId serial, link := none }

/-- Starting or restarting a process changes no shared state: the plugin
registers itself later, over a connection. -/
def step : Action β → Option (Kernel β)
  | .accept conn transport => kernel.accept conn transport
  | .receive msg => kernel.receive ctx msg
  | .hangup conn => kernel.hangup conn
  | .route now => kernel.route ctx now
  | .prune now => some (kernel.setRouter (kernel.router.pruneTick ctx now))
  | .take transport => kernel.take transport
  | .publishLeft transport now => kernel.publishLeft ctx transport now
  | .unsubscribe transport => kernel.unsubscribe transport
  | .unregister transport => kernel.unregister transport
  | .stop pluginId => some (kernel.stop pluginId)
  | .spawn _ => some kernel
  | .declare pluginId events => some (kernel.declare pluginId events)
  | .publishDied event now => some (kernel.setRouter (kernel.router.publish ctx now event))
  | .ping pluginId now => some (kernel.ping ctx pluginId now)
  | .drain tx => some (kernel.setRouter { kernel.router with net := kernel.router.net.drain tx })
  | .close tx => some (kernel.setRouter { kernel.router with net := kernel.router.net.close tx })
  | .bridgeUp deviceId mirror now => kernel.bridgeUp deviceId mirror now
  | .bridgeDown => kernel.bridgeDown

end Kernel
end Vynkor
