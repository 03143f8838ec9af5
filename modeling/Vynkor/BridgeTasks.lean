import Vynkor.Tasks

/-! The connection of a client kernel to its host, beside the other tasks: the
registration there, the loop that reads what the host sends, and the loop that
writes the channel of the local entry to the host. -/

namespace Vynkor

structure BridgeConfig where
  token : Option String := none
  secret : Option Bytes := none
  mirror : List String := []
  deriving DecidableEq

structure Bridge where
  config : BridgeConfig := {}
  deviceId : String
  deriving DecidableEq

/-- What the connection task does next: connect, wait for the acknowledgement, read
a frame, or put one on the router queue. `serial` names the channel of the
connection. -/
inductive BridgeTask (β : Type) where
  | down
  | registering
  | reading (serial : Nat) (key : Option Bytes)
  | holding (serial : Nat) (key : Option Bytes) (frame : Frame β)

def BridgeTask.channel {β : Type} : BridgeTask β → Option (Sender × Option Bytes)
  | .down | .registering => none
  | .reading serial key | .holding serial key _ => some (hostTx serial, key)

/-- `socket` is what was written to the host over this connection. -/
structure HostLink (β : Type) where
  task : BridgeTask β := .down
  socket : List (Frame β) := []

/-- What the arms of the host's kernel handle. Anything else is device traffic. -/
def Payload.isKernelRouted : Payload → Bool
  | .actionRequest _ | .actionRequestChunk _ | .actionResponse _ | .actionResponseChunk _ | .sessionClose _
  | .actionStreamAbort _ | .ping _ | .pong _ _ | .error _ | .eventPublishAck _ | .kernelCommandAck _ | .eventAck _
  | .pluginRegisterAck _ => true
  | _ => false

namespace Bridge
variable {β : Type} (bridge : Bridge) (wire : Wire β)

/-- The device registers as itself, with all its capabilities. -/
def registration : Envelope where
  payload := some (.pluginRegister {
    pluginId := bridge.deviceId
    manifest := some { permissions := ["PERMISSION_IPC_SEND", "PERMISSION_EVENT_PUBLISH"] }
    jwtToken := bridge.config.token.getD ""
    deviceId := bridge.deviceId
    capabilities := bridge.config.mirror })

def sessionKey (ack : PluginRegisterAck) : Option Bytes :=
  match bridge.config.secret with
  | some secret =>
    if ack.sessionNonce.isEmpty then none else some (wire.deriveSessionKey secret ack.sessionNonce bridge.deviceId)
  | none => none

def isKernelRouted (frame : Frame β) : Bool :=
  ((wire.decode frame.payload).bind Envelope.payload).any Payload.isKernelRouted

/-- The host writes `<device_id>.<cap>` where the local kernel writes `<cap>`. -/
def stripDevicePrefix (frame : Frame β) : String :=
  ((wire.targetAsStr frame.target).bind fun target => Text.stripPrefix target (bridge.deviceId ++ ".")).getD "kernel"

/-- A frame of the host as it goes to the local router, which tags it again for the
local plugin. -/
def localFrame (frame : Frame β) : Frame β :=
  { frame.stripMac with
    target := targetBytes (if isKernelRouted wire frame then "kernel" else bridge.stripDevicePrefix wire frame) }

/-- A frame as it goes to the host, which wants to be addressed as the kernel. -/
def hostFrame (framing : Framing β) (key : Option Bytes) (frame : Frame β) : Frame β :=
  framing.tagged key
    (if wire.targetAsStr frame.target == some "client" then { frame with target := targetBytes "kernel" } else frame)

end Bridge

structure BridgedTasks (β : Type) where
  tasks : Tasks β := {}
  host : HostLink β := {}

/-- A step of another task, or one of the bridge: it connects, gets a frame before
it is registered, gets one after that, puts a message on the router queue, takes an
item of its channel, or loses the connection. -/
inductive BridgedAction (β : Type) where
  | task (action : TaskAction β)
  | connect (delivered : Bool)
  | register (frame : Frame β) (now : Moment)
  | read (frame : Frame β)
  | enqueue
  | write (delivered : Bool)
  | lose

/-- What the bridge does in the other model, where its frames and its channel are
left open. -/
def TaskAction.isBridge {β : Type} : TaskAction β → Bool
  | .other (.receive _) | .other (.drain _) | .other (.close _) | .other (.bridgeUp _ _ _) | .other .bridgeDown => true
  | _ => false

namespace BridgedTasks
variable {β : Type} (ctx : Context β) (framing : Framing β) (limits : ConnectionLimits) (bridge : Bridge)
  (state : BridgedTasks β)

def setTask (task : BridgeTask β) : BridgedTasks β := { state with host := { state.host with task } }

def setKernel (kernel : Kernel β) : BridgedTasks β := { state with tasks := { state.tasks with kernel } }

def connect (delivered : Bool) : Option (BridgedTasks β) :=
  match state.host.task with
  | .down =>
    match ctx.wire.encode bridge.registration with
    | none => some state
    | some bytes =>
      if delivered then
        some { state with host := { task := .registering, socket := [buildFrame ctx.wire "kernel" 0 bytes] } }
      else some state
  | _ => none

/-- Only an acknowledgement or an error ends the wait. -/
def register (frame : Frame β) (now : Moment) : Option (BridgedTasks β) :=
  match state.host.task with
  | .registering =>
    if frame.flags &&& flagFragmented != 0 then some (state.setTask .down)
    else
      match ctx.wire.decode frame.payload with
      | none => some (state.setTask .down)
      | some envelope =>
        match envelope.payload with
        | some (.pluginRegisterAck ack) =>
          let kernel := state.tasks.kernel
          match ack.accepted, kernel.bridgeUp bridge.deviceId bridge.config.mirror now with
          | true, some registered =>
            some ((state.setKernel registered).setTask (.reading kernel.cycles (bridge.sessionKey ctx.wire ack)))
          | _, _ => some (state.setTask .down)
        | some (.error _) => some (state.setTask .down)
        | _ => some state
  | _ => none

def disconnect : Option (BridgedTasks β) :=
  state.tasks.kernel.bridgeDown.map fun kernel => (state.setKernel kernel).setTask .down

def read (frame : Frame β) : Option (BridgedTasks β) :=
  match state.host.task with
  | .reading serial key =>
    if frame.flags &&& flagFragmented != 0 then state.disconnect
    else
      match key.bind fun key => framing.macError key frame with
      | some _ => state.disconnect
      | none => some (state.setTask (.holding serial key (bridge.localFrame ctx.wire frame)))
  | _ => none

theorem host_channel (serial : Nat) : (hostTx serial).conn = bridgeConnId := rfl

def received (serial : Nat) (frame : Frame β) : IncomingMessage β where
  connId := bridgeConnId
  frame := frame
  writeTx := hostTx serial
  owned := host_channel serial

def enqueue : Option (BridgedTasks β) :=
  match state.host.task with
  | .holding serial key frame =>
    (state.tasks.kernel.receive ctx (received serial frame)).map fun kernel =>
      (state.setKernel kernel).setTask (.reading serial key)
  | _ => none

def setNet (net : Mailboxes Sender (Outbound β)) : BridgedTasks β := { state with tasks := state.tasks.setNet net }

/-- One item of the channel. A write that fails ends the loop. -/
def write (delivered : Bool) : Option (BridgedTasks β) :=
  match state.host.task.channel with
  | none => none
  | some (tx, key) =>
    match (state.tasks.net tx).queue with
    | [] => none
    | .enableMac _ :: _ => some (state.setNet (state.tasks.net.drain tx))
    | .frame frame :: _ =>
      if delivered then
        some { state.setNet (state.tasks.net.drain tx) with
          host := { state.host with socket := state.host.socket ++ [Bridge.hostFrame ctx.wire framing key frame] } }
      else some (state.setNet (state.tasks.net.close tx))

def lose : Option (BridgedTasks β) :=
  match state.host.task with
  | .registering => some (state.setTask .down)
  | .reading _ _ => state.disconnect
  | _ => none

def step : BridgedAction β → Option (BridgedTasks β)
  | .task action =>
    if action.isBridge then none
    else (state.tasks.step ctx framing limits action).map fun tasks => { state with tasks }
  | .connect delivered => state.connect ctx bridge delivered
  | .register frame now => state.register ctx bridge frame now
  | .read frame => state.read ctx framing bridge frame
  | .enqueue => state.enqueue ctx
  | .write delivered => state.write ctx framing delivered
  | .lose => state.lose

end BridgedTasks
end Vynkor
