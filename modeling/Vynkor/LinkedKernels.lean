import Vynkor.BridgeTasks

/-! A client kernel and its host, joined by the connection of the bridge. Each reads
what the other has written, in that order; everything else they do on their own. -/

namespace Vynkor

/-- `conn` is the connection under which the host knows the bridge; `toHost` and
`toClient` are the frames on their way. -/
structure LinkedKernels (β : Type) where
  host : Tasks β := {}
  client : BridgedTasks β := {}
  conn : Option Nat := none
  toHost : List (Frame β) := []
  toClient : List (Frame β) := []

/-- The bridge connects and the host accepts; one of the two reads the next frame, the
bridge before or after it is registered; or one of them takes another step. -/
inductive LinkedAction (β : Type) where
  | connect (conn : Nat)
  | hostReads (now : Nat)
  | clientRegisters (moment : Moment)
  | clientReads
  | host (action : TaskAction β)
  | client (action : BridgedAction β)

/-- A frame that the host reads from the given connection. -/
def TaskAction.readsFrom {β : Type} (conn : Option Nat) : TaskAction β → Bool
  | .read source _ _ => conn == some source
  | _ => false

/-- What the bridge does only together with the host. -/
def BridgedAction.isJoint {β : Type} : BridgedAction β → Bool
  | .connect delivered => delivered
  | .register _ _ | .read _ => true
  | _ => false

namespace LinkedKernels
variable {β : Type} (hostCtx clientCtx : Context β) (framing : Framing β) (limits : ConnectionLimits) (bridge : Bridge)
  (linked : LinkedKernels β)

/-- What was written to the connection since then is on its way. -/
def emits (host : Tasks β) (client : BridgedTasks β) : LinkedKernels β :=
  { linked with
    host
    client
    toHost := linked.toHost ++ client.host.socket.drop linked.client.host.socket.length
    toClient := linked.toClient ++ linked.conn.toList.flatMap fun conn =>
      (host.links conn).socket.drop (linked.host.links conn).socket.length }

def connect (conn : Nat) : Option (LinkedKernels β) := do
  let host ← linked.host.step hostCtx framing limits (.accept conn .ws)
  let client ← linked.client.step clientCtx framing limits bridge (.connect true)
  match client.host.task with
  | .registering => some { host, client, conn := some conn, toHost := client.host.socket }
  | _ => none

def hostReads (now : Nat) : Option (LinkedKernels β) := do
  let conn ← linked.conn
  let frame ← linked.toHost.head?
  let host ← linked.host.step hostCtx framing limits (.read conn now frame)
  return { linked with toHost := linked.toHost.tail }.emits host linked.client

def clientTakes (action : Frame β → BridgedAction β) : Option (LinkedKernels β) := do
  let frame ← linked.toClient.head?
  let client ← linked.client.step clientCtx framing limits bridge (action frame)
  return { linked with toClient := linked.toClient.tail }.emits linked.host client

def step : LinkedAction β → Option (LinkedKernels β)
  | .connect conn => linked.connect hostCtx clientCtx framing limits bridge conn
  | .hostReads now => linked.hostReads hostCtx framing limits now
  | .clientRegisters moment => linked.clientTakes clientCtx framing limits bridge fun frame => .register frame moment
  | .clientReads => linked.clientTakes clientCtx framing limits bridge .read
  | .host action =>
    if action.readsFrom linked.conn then none
    else (linked.host.step hostCtx framing limits action).map fun host => linked.emits host linked.client
  | .client action =>
    if action.isJoint then none
    else (linked.client.step clientCtx framing limits bridge action).map fun client => linked.emits linked.host client

end LinkedKernels
end Vynkor
