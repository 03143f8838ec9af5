import Vynkor.Orchestrator

/-! Who has subscribed whom. To the router a message that changes subscriptions is two
steps, the lookup of its plugin and the change of the bus, and other tasks may come in
between. -/

namespace Vynkor

/-- What a message asks of the bus. -/
inductive BusRequest where
  | subscribe (eventTypes : List String)
  | unsubscribe (eventTypes : List String)
  deriving DecidableEq

def Payload.busRequest? : Payload → Option BusRequest
  | .subscribe eventTypes => some (.subscribe eventTypes)
  | .unsubscribe eventTypes => some (.unsubscribe eventTypes)
  | _ => none

def EventBus.answer (bus : EventBus) (pluginId : String) : BusRequest → EventBus
  | .subscribe eventTypes => bus.subscribe pluginId eventTypes
  | .unsubscribe eventTypes => bus.unsubscribe pluginId eventTypes

/-- The sender and its request, if the message comes through to one of the two handlers. -/
def RouterState.busRequest {β : Type} (ctx : Context β) (now : Moment) (msg : IncomingMessage β)
    (st : RouterState β) : Option (PluginEntry × BusRequest) :=
  let checked := st.checkIpcRate ctx now msg
  if checked.2 && ctx.wire.targetAsStr msg.frame.target == some "kernel" && !checked.1.isThrottled ctx msg then
    match ctx.wire.decode msg.frame.payload with
    | some envelope =>
      match envelope.payload.bind Payload.busRequest? with
      | some request => (st.registry.getByConnId msg.connId).map fun entry => (entry, request)
      | none => none
    | none => none
  else none

/-- A request of the connection that writes to `tx`, whose plugin has been looked up. -/
structure Asking where
  tx : Sender
  pluginId : String
  request : BusRequest
  deriving DecidableEq

inductive Maker where
  | loader
  | message (tx : Sender)
  deriving DecidableEq

/-- A subscription with its maker: `load_all`, or a message of a connection. -/
structure Made where
  maker : Maker
  pluginId : String
  eventType : String
  deriving DecidableEq

/-- `made` tells who made the subscriptions that the bus holds; no task reads it. -/
structure Switchboard (β : Type) where
  kernel : Kernel β := {}
  asking : Option Asking := none
  made : List Made := []

inductive SwitchAction (β : Type) where
  | kernel (action : Action β)
  | lookUp (now : Moment)
  | answer

namespace Switchboard
variable {β : Type} (ctx : Context β) (state : Switchboard β)

def nextRequest (now : Moment) : Option (PluginEntry × BusRequest) :=
  state.kernel.incoming.head?.bind fun msg => state.kernel.router.busRequest ctx now msg

/-- The router is not busy with a request to the bus, and the next message is none. -/
def routerFree : Action β → Bool
  | .route now => state.asking.isNone && (state.nextRequest ctx now).isNone
  | .prune _ => state.asking.isNone
  | _ => true

def makes (maker : Maker) (pluginId : String) (eventTypes : List String) : List Made :=
  eventTypes.map fun eventType => { maker, pluginId, eventType }

def madeAfter : Action β → List Made
  | .declare pluginId events => state.made ++ makes .loader pluginId events
  | .unsubscribe transport =>
    match state.kernel.inHand transport .published with
    | some leaving => state.made.filter fun made => made.pluginId ≠ leaving.pluginId
    | none => state.made
  | _ => state.made

def kernelStep (action : Action β) : Option (Switchboard β) :=
  if state.routerFree ctx action then
    (state.kernel.step ctx action).map fun kernel => { state with kernel, made := state.madeAfter action }
  else none

/-- All of the handling of the message but the change of the bus. -/
def lookUp (now : Moment) : Option (Switchboard β) :=
  match state.asking, state.kernel.incoming with
  | none, msg :: rest =>
    match state.kernel.router.busRequest ctx now msg with
    | some (entry, request) =>
      let router := { (state.kernel.router.routeMessage ctx now msg).1 with bus := state.kernel.router.bus }
      some { state with
        kernel := { state.kernel with router, incoming := rest }
        asking := some { tx := msg.writeTx, pluginId := entry.pluginId, request } }
    | none => none
  | _, _ => none

def answered (asking : Asking) : List Made :=
  match asking.request with
  | .subscribe eventTypes => state.made ++ makes (.message asking.tx) asking.pluginId eventTypes
  | .unsubscribe eventTypes =>
    state.made.filter fun made => ¬(made.pluginId = asking.pluginId ∧ made.eventType ∈ eventTypes)

def answer : Option (Switchboard β) :=
  match state.asking with
  | some asking =>
    let bus := state.kernel.router.bus.answer asking.pluginId asking.request
    some { kernel := state.kernel.setRouter { state.kernel.router with bus }, made := state.answered asking }
  | none => none

def step : SwitchAction β → Option (Switchboard β)
  | .kernel action => state.kernelStep ctx action
  | .lookUp now => state.lookUp ctx now
  | .answer => state.answer

end Switchboard
end Vynkor
