import Vynkor.Connection
import Vynkor.Orchestrator

/-! The tasks of the kernel in finer steps. To the router an accepted registration
is four steps, with a wait in the third: the registry entry, the acknowledgement,
the session key and the joined event. A connection reads and writes; over a Unix
socket these are two tasks, over a WebSocket a single one that does not write
while it waits for room in the router queue. -/

namespace Vynkor

/-- A registration that the registry has accepted. -/
structure Registering (β : Type) where
  moment : Moment
  msg : IncomingMessage β
  messageId : String
  pluginId : String
  deviceSecret : Option Bytes

/-- What the router task has done of a registration. -/
inductive RouterTask (β : Type) where
  | idle
  | registered (joining : Registering β)
  | acknowledged (joining : Registering β)
  | armed (joining : Registering β)

/-- What the reading task of a connection does next: read a frame, put a message
on the router queue, send an error notice, or put its id on the disconnect queue. -/
inductive ReadTask (β : Type) where
  | reading
  | holding (msg : IncomingMessage β)
  | refusing (code : ErrorCode)
  | closing

/-- The two ends of a connection: `key` tags what is written, `cell` is the shared
key that verifies what is read, `socket` is what was written so far. -/
structure Link (β : Type) where
  task : ReadTask β := .reading
  streams : Reassembly := ∅
  key : Option Bytes := none
  cell : Option Bytes := none
  socket : List (Frame β) := []

/-- `keyed` lists the registrations that have come past their third step; no task
reads it. -/
structure Tasks (β : Type) where
  kernel : Kernel β := {}
  task : RouterTask β := .idle
  links : Nat → Link β := fun _ => {}
  keyed : List (Registering β) := []

/-- One step of one task. `leave` ends a connection from outside: end of file, a
malformed frame, a timeout. `other` is a step of a task that is no connection and
not the router. -/
inductive TaskAction (β : Type) where
  | accept (conn : Nat) (transport : Transport)
  | read (conn : Nat) (now : Nat) (frame : Frame β)
  | leave (conn : Nat)
  | enqueue (conn : Nat)
  | refuse (conn : Nat)
  | hangup (conn : Nat)
  | write (conn : Nat) (delivered : Bool)
  | take (moment : Moment)
  | acknowledge
  | arm
  | join
  | prune (moment : Moment)
  | redeliver (event : Event) (moment : Moment)
  | notifyShutdown (pluginId : String) (notice : Payload)
  | other (action : Action β)

/-- A step of the disconnect loops, the plugin manager, the supervisor or the
bridge, which drains its own channel. -/
def Action.isElsewhere {β : Type} : Action β → Bool
  | .take _ | .publishLeft _ _ | .unsubscribe _ | .unregister _ | .stop _ | .spawn _ | .declare _ _
  | .publishDied _ _ | .ping _ _ | .bridgeUp _ _ _ | .bridgeDown => true
  | .receive msg => msg.connId == bridgeConnId
  | .drain tx | .close tx => tx.conn == bridgeConnId
  | .accept _ _ | .hangup _ | .route _ | .prune _ => false

namespace Registering
variable {β : Type} (ctx : Context β) (joining : Registering β)

def nonce : Bytes := RouterState.sessionNonce ctx joining.moment

/-- The key of the connection, when the kernel has a secret. -/
def sessionKey : Option Bytes :=
  ctx.macSecret.map fun secret =>
    ctx.wire.deriveSessionKey (joining.deviceSecret.getD secret) (joining.nonce ctx) joining.pluginId

end Registering

namespace RouterState
variable {β : Type} (ctx : Context β) (moment : Moment) (msg : IncomingMessage β) (st : RouterState β)

/-- The message, if it is a registration that passes every check, up to its entry
in the registry. -/
def acceptRegister : Option (Registering β × RouterState β) :=
  let checked := st.checkIpcRate ctx moment msg
  if checked.2 && ctx.wire.targetAsStr msg.frame.target == some "kernel" && !checked.1.isThrottled ctx msg then
    match ctx.wire.decode msg.frame.payload with
    | some envelope =>
      match envelope.payload with
      | some (.pluginRegister register) =>
        match ctx.admitRegister moment register with
        | .ok (manifest, deviceSecret) =>
          match checked.1.registerPlugin moment msg register manifest with
          | .ok registry =>
            let joining := { moment, msg, messageId := envelope.messageId, pluginId := register.pluginId, deviceSecret }
            some (joining, checked.1.setRegistry registry)
          | .error _ => none
        | .error _ => none
      | _ => none
    | none => none
  else none

variable (joining : Registering β)

def acknowledgeStep : RouterState β :=
  st.acknowledgeRegister ctx joining.moment joining.msg joining.messageId joining.pluginId

def armStep : RouterState β :=
  st.enableMac ctx joining.moment joining.msg joining.pluginId joining.deviceSecret

def joinStep : RouterState β :=
  (st.publishJoined ctx joining.moment joining.pluginId).recordOutcome ctx joining.moment joining.msg false

end RouterState

namespace Tasks
variable {β : Type} (ctx : Context β) (framing : Framing β) (limits : ConnectionLimits) (state : Tasks β)

def net : Mailboxes Sender (Outbound β) := state.kernel.router.net

def setRouter (router : RouterState β) : Tasks β := { state with kernel := state.kernel.setRouter router }

def setNet (net : Mailboxes Sender (Outbound β)) : Tasks β := state.setRouter { state.kernel.router with net }

def setLink (conn : Nat) (link : Link β) : Tasks β :=
  { state with links := fun other => if other = conn then link else state.links other }

def setTask (conn : Nat) (task : ReadTask β) : Tasks β := state.setLink conn { state.links conn with task }

def opened (conn : Nat) : Option Transport :=
  match state.kernel.connections.get conn with
  | some connection => if connection.ended then none else some connection.transport
  | none => none

/-- A send that waits is over: there is room, or the channel is closed. -/
def passes (tx : Sender) : Bool := (state.net tx).closed || state.kernel.router.hasRoom tx

section
variable (conn : Nat)

theorem own_channel : Sender.conn { conn } = conn := rfl

def received (frame : Frame β) : IncomingMessage β where
  connId := conn
  frame := frame
  writeTx := { conn }
  owned := own_channel conn

/-- What the reading task makes of a frame. The gateway knows no fragments, and
gives no notice of a frame that fails its check. -/
def read (now : Nat) (frame : Frame β) : Option (Tasks β) :=
  let link := state.links conn
  match state.opened conn, link.task with
  | some .uds, .reading =>
    match framing.readFrame ctx.wire limits now link.cell link.streams frame with
    | .dropped none => some (state.setTask conn .closing)
    | .dropped (some code) => some (state.setTask conn (.refusing code))
    | .kept streams => some (state.setLink conn { link with streams })
    | .passed streams frame => some (state.setLink conn { link with streams, task := .holding (received conn frame) })
  | some .ws, .reading =>
    if frame.flags &&& flagFragmented != 0 then none
    else
      match link.cell.bind fun key => framing.macError key frame with
      | some _ => some (state.setTask conn .closing)
      | none => some (state.setTask conn (.holding (received conn frame)))
  | _, _ => none

def leave : Option (Tasks β) :=
  match state.opened conn, (state.links conn).task with
  | some _, .reading => some (state.setTask conn .closing)
  | _, _ => none

def enqueue : Option (Tasks β) :=
  match (state.links conn).task with
  | .holding msg => (state.kernel.receive ctx msg).map fun kernel => { state with kernel }.setTask conn .reading
  | _ => none

/-- The notice waits for room in the connection's own write channel. -/
def refuse : Option (Tasks β) :=
  match (state.links conn).task with
  | .refusing code =>
    match ctx.wire.encode { payload := some (.error { code, message := "", details := "" }) } with
    | none => some (state.setTask conn .closing)
    | some bytes =>
      if state.passes { conn } then
        some ((state.setNet
          (state.net.send { conn } (.frame (buildFrame ctx.wire "client" 0 bytes)))).setTask conn .closing)
      else none
  | _ => none

/-- The end of the gateway's task takes the receiving end of its channel along. -/
def hangup : Option (Tasks β) :=
  match state.opened conn, (state.links conn).task with
  | some .uds, .closing => (state.kernel.hangup conn).map fun kernel => { state with kernel }
  | some .ws, .closing =>
    (state.kernel.hangup conn).map fun kernel => { state with kernel }.setNet (kernel.router.net.close { conn })
  | _, _ => none

/-- The transport of a connection whose write channel is being drained: the loop
is not over, and the gateway's task is not busy with what it read. -/
def writes : Option Transport :=
  match state.kernel.connections.get conn, (state.links conn).task with
  | some { transport := .uds, .. }, _ => if (state.net { conn }).closed then none else some .uds
  | some { transport := .ws, .. }, .reading => if (state.net { conn }).closed then none else some .ws
  | _, _ => none

/-- One item of the write channel. A frame that is too large is dropped by the
write loop; a write that fails ends the loop or the gateway's task. -/
def write (delivered : Bool) : Option (Tasks β) :=
  let link := state.links conn
  let drained := state.setNet (state.net.drain { conn })
  match state.writes conn, (state.net { conn }).queue with
  | some _, .enableMac key :: _ => some (drained.setLink conn { link with key := some key, cell := some key })
  | some transport, .frame frame :: _ =>
    let frame := framing.tagged link.key frame
    match transport, delivered with
    | .uds, _ =>
      if framing.tooLarge frame.payload then some drained
      else if delivered then some (drained.setLink conn { link with socket := link.socket ++ [frame] })
      else some (state.setNet (state.net.close { conn }))
    | .ws, true => some (drained.setLink conn { link with socket := link.socket ++ [frame] })
    | .ws, false => some (drained.setTask conn .closing)
  | _, _ => none

end

/-- The router takes a message. Anything but an accepted registration is handled
in this step. -/
def take (moment : Moment) : Option (Tasks β) :=
  match state.task, state.kernel.incoming with
  | .idle, msg :: rest =>
    match state.kernel.router.acceptRegister ctx moment msg with
    | some (joining, router) =>
      some { state with kernel := { state.kernel with router, incoming := rest }, task := .registered joining }
    | none => (state.kernel.route ctx moment).map fun kernel => { state with kernel }
  | _, _ => none

def acknowledge : Option (Tasks β) :=
  match state.task with
  | .registered joining =>
    some { state.setRouter (state.kernel.router.acknowledgeStep ctx joining) with task := .acknowledged joining }
  | _ => none

def waitsOn (tx : Sender) : Bool :=
  match state.task with
  | .acknowledged joining => ctx.macSecret.isSome && joining.msg.writeTx == tx && !state.passes tx
  | _ => false

def arm : Option (Tasks β) :=
  match state.task with
  | .acknowledged joining =>
    if state.waitsOn ctx joining.msg.writeTx then none
    else some { state.setRouter (state.kernel.router.armStep ctx joining) with
      task := .armed joining, keyed := state.keyed ++ [joining] }
  | _ => none

def join : Option (Tasks β) :=
  match state.task with
  | .armed joining => some { state.setRouter (state.kernel.router.joinStep ctx joining) with task := .idle }
  | _ => none

def prune (moment : Moment) : Option (Tasks β) :=
  match state.task with
  | .idle => some (state.setRouter (state.kernel.router.pruneTick ctx moment))
  | _ => none

def notifyShutdown (pluginId : String) (notice : Payload) : Option (Tasks β) :=
  match state.kernel.router.registry.get pluginId, ctx.wire.encode { payload := some notice } with
  | some entry, some bytes =>
    if state.passes entry.writeTx then
      some (state.setNet (state.net.send entry.writeTx (.frame (buildFrame ctx.wire "self" 0 bytes))))
    else none
  | _, _ => none

def step : TaskAction β → Option (Tasks β)
  | .accept conn transport => (state.kernel.accept conn transport).map fun kernel => { state with kernel }
  | .read conn now frame => state.read ctx framing limits conn now frame
  | .leave conn => state.leave conn
  | .enqueue conn => state.enqueue ctx conn
  | .refuse conn => state.refuse ctx conn
  | .hangup conn => state.hangup conn
  | .write conn delivered => state.write framing conn delivered
  | .take moment => state.take ctx moment
  | .acknowledge => state.acknowledge ctx
  | .arm => state.arm ctx
  | .join => state.join ctx
  | .prune moment => state.prune ctx moment
  | .redeliver event moment => some (state.setRouter (state.kernel.router.deliver ctx moment event))
  | .notifyShutdown pluginId notice => state.notifyShutdown ctx pluginId notice
  | .other action =>
    if action.isElsewhere then (state.kernel.step ctx action).map fun kernel => { state with kernel } else none

end Tasks
end Vynkor
