import Vynkor.Router.KernelMessage

/-! Frames addressed to other plugins: unicast, broadcast and the relay of a
client kernel to its host. -/

namespace Vynkor

structure Denial where
  code : ErrorCode
  message : String
  deriving DecidableEq

/-- Raw frames need the audio permission on top of the others. -/
def audioAllowed {β : Type} (registry : PluginRegistry) (frame : Frame β) (senderId : String) : Bool :=
  !frame.isRawBinary || (checkPermission registry senderId .audioStream).isOk

/-- Unicast to the exact target is allowed when it is listed; a dotted target
that resolves is also allowed when the part before the dot is listed. -/
def forwardAllowed (manifest : PluginManifest) (target : String) (resolved : Option PluginEntry) : Bool :=
  manifest.ipcTargets.any (· == target)
    || (Text.contains target '.' && resolved.isSome &&
      match Text.splitOnce target '.' with
      | some (dev, _) => manifest.ipcTargets.any (· == dev)
      | none => false)

/-- The gates of a unicast frame in the order they are checked. -/
def authorizeForward {β : Type} (registry : PluginRegistry) (msg : IncomingMessage β) (target : String) :
    Except Denial PluginEntry :=
  match registry.getByConnId msg.connId with
  | none => .error ⟨.notRegistered, "not registered"⟩
  | some sender =>
    if !(checkIpcSend registry sender.pluginId).isOk then
      .error ⟨.permissionDenied, "PERMISSION_IPC_SEND required"⟩
    else
      match registry.get sender.pluginId with
      | none => .error ⟨.permissionDenied, "sender not found"⟩
      | some senderEntry =>
        let resolvedForAuth := registry.getMux target
        if resolvedForAuth.any fun targetEntry => targetEntry.userId ≠ senderEntry.userId then
          .error ⟨.permissionDenied, "cross-user IPC denied"⟩
        else if !forwardAllowed senderEntry.manifest target resolvedForAuth then
          .error ⟨.permissionDenied, "target not in ipc_targets allowlist"⟩
        else if !audioAllowed registry msg.frame sender.pluginId then
          .error ⟨.permissionDenied, "PERMISSION_AUDIO_STREAM required for FLAG_RAW_BINARY frames"⟩
        else .ok sender

/-- The gates of a broadcast frame; the targets are checked one by one later. -/
def authorizeBroadcast {β : Type} (registry : PluginRegistry) (msg : IncomingMessage β) :
    Except Denial PluginEntry :=
  match registry.getByConnId msg.connId with
  | none => .error ⟨.notRegistered, "not registered"⟩
  | some sender =>
    if !(checkIpcSend registry sender.pluginId).isOk then
      .error ⟨.permissionDenied, "PERMISSION_IPC_SEND required"⟩
    else if !audioAllowed registry msg.frame sender.pluginId then
      .error ⟨.permissionDenied, "PERMISSION_AUDIO_STREAM required for FLAG_RAW_BINARY frames"⟩
    else .ok sender

/-- A unicast action request without an action name: the payload of a direct
call to a device capability. -/
def directRequest {β : Type} (wire : Wire β) (frame : Frame β) : Option ActionRequest :=
  match wire.decode frame.payload with
  | some { payload := some (.actionRequest request), .. } => if request.action = "" then some request else none
  | _ => none

namespace RouterState
variable {β : Type} (ctx : Context β) (now : Moment) (msg : IncomingMessage β) (st : RouterState β)

def directPending (sender provider : PluginEntry) (request : ActionRequest) : PendingAction where
  requesterWriteTx := msg.writeTx
  originalActionId := request.actionId
  requesterId := sender.pluginId
  deadline := now.instant + fromMillis 30000
  providerId := provider.pluginId
  streaming := request.streaming
  sessionAccepted := false
  lastActivity := now.instant

/-- A direct call to a capability is recorded under the id its caller chose. -/
def recordDirect (target : String) (sender provider : PluginEntry) : PluginRegistry :=
  match directRequest ctx.wire msg.frame with
  | some request =>
    if Text.contains target '.' then
      st.registry.registerPendingAction request.actionId (directPending now msg sender provider request)
    else st.registry
  | none => st.registry

/-- The relayed frame carries no MAC: the recipient's writer adds its own. -/
def relayed : Outbound β := .frame msg.frame.stripMac

/-- The frame goes to the first live bridge connection, if it has room. -/
def relayToHost : RouterState β × Bool :=
  match st.bridge with
  | some (tx :: _) => st.trySend tx (relayed msg)
  | _ => (st, false)

def forward (target : String) : RouterState β × Bool :=
  match authorizeForward st.registry msg target with
  | .error denial => (st.sendError ctx now msg.writeTx denial.code denial.message, true)
  | .ok sender =>
    match st.registry.getMux target with
    | some entry =>
      let st := st.setRegistry (st.recordDirect ctx now msg target sender entry)
      ((st.trySend entry.writeTx (relayed msg)).1, false)
    | none =>
      let relay := st.relayToHost msg
      if relay.2 then (relay.1, false)
      else (relay.1.sendError ctx now msg.writeTx .unknown "plugin not found", true)

/-- Every other registered plugin that the sender may address. -/
def broadcastTo (sender : PluginEntry) : List PluginEntry → RouterState β → RouterState β
  | [], st => st
  | entry :: rest, st =>
    if entry.connId = msg.connId then broadcastTo sender rest st
    else if (checkIpcTarget st.registry sender.pluginId entry.pluginId).isOk then
      broadcastTo sender rest (st.trySend entry.writeTx (relayed msg)).1
    else broadcastTo sender rest st

def broadcast : RouterState β × Bool :=
  match authorizeBroadcast st.registry msg with
  | .error denial => (st.sendError ctx now msg.writeTx denial.code denial.message, true)
  | .ok sender => (broadcastTo msg sender st.registry.list st, false)

end RouterState
end Vynkor
