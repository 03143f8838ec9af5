import Vynkor.Router.State

/-! The `PluginRegister` message: version check, token, device credential,
permission clamp, registration, acknowledgement, frame MAC and joined event. -/

namespace Vynkor

/-- Why a registration is refused before the registry is asked. -/
inductive RegisterRefusal where
  | protocolMismatch (text : String)
  | rejected (reason : String)

namespace Context
variable {β : Type} (ctx : Context β) (now : Moment)

/-- A version that differs in its major number is refused; plugins that predate
the field send none. -/
def checkProtocolVersion (register : PluginRegister) : Except RegisterRefusal Unit :=
  if register.protocolVersion ≠ ""
      ∧ Text.firstPiece register.protocolVersion '.' ≠ Text.firstPiece ctx.wire.protocolVersion '.' then
    .error (.protocolMismatch ("protocol version " ++ register.protocolVersion ++ " incompatible with kernel "
      ++ ctx.wire.protocolVersion))
  else .ok ()

/-- The permissions and targets of an accepted token replace the declared ones.
A token of the device authorizes every plugin of that device. -/
def authenticate (register : PluginRegister) : Except RegisterRefusal PluginManifest :=
  let manifest := register.manifest.getD {}
  match ctx.validate with
  | none => .ok manifest
  | some validate =>
    match validate now register.jwtToken with
    | .error _ => .error (.rejected "authentication failed")
    | .ok claims =>
      let deviceMatch := register.deviceId ≠ "" ∧ claims.sub = register.deviceId
      if claims.sub ≠ register.pluginId ∧ ¬deviceMatch then .error (.rejected "token plugin_id mismatch")
      else .ok { manifest with permissions := claims.permissions, ipcTargets := claims.ipcTargets }

/-- With authentication on, a declared device must have an active credential. -/
def deviceSecret (register : PluginRegister) : Except RegisterRefusal (Option Bytes) :=
  if register.deviceId ≠ "" ∧ ctx.macSecret.isSome then
    match ctx.activeSecret with
    | none => .ok none
    | some activeSecret =>
      match activeSecret now register.deviceId with
      | .ok (some secret) => .ok (some secret)
      | .ok none => .error (.rejected "unknown device — pair it first")
      | .error error => .error (.rejected error.toText)
  else .ok none

/-- An absent or empty allowlist restricts nothing. -/
def clampPermissions (pluginId : String) (manifest : PluginManifest) : PluginManifest :=
  match ctx.configPermissions with
  | none => manifest
  | some configured =>
    match configured.get pluginId with
    | none => manifest
    | some allowed =>
      if allowed = [] then manifest
      else { manifest with permissions := manifest.permissions.filter fun permission =>
        (allowed.map normalizePermission).contains (normalizePermission permission) }

def admitRegister (register : PluginRegister) : Except RegisterRefusal (PluginManifest × Option Bytes) := do
  ctx.checkProtocolVersion register
  let manifest ← ctx.authenticate now register
  let deviceSecret ← ctx.deviceSecret now register
  return (ctx.clampPermissions register.pluginId manifest, deviceSecret)

end Context

def PluginRegister.deviceMeta (register : PluginRegister) : DeviceMeta where
  deviceId := register.deviceId
  userId := register.userId
  os := register.os.getD .unspecified
  arch := register.arch
  osVersion := register.osVersion
  capabilities := register.capabilities

def PluginRegister.isMuxDevice (register : PluginRegister) : Bool :=
  register.capabilities ≠ [] ∧ register.deviceId ≠ "" ∧ register.pluginId = register.deviceId

namespace RouterState
variable {β : Type} (ctx : Context β) (now : Moment) (msg : IncomingMessage β) (st : RouterState β)

def registerPlugin (register : PluginRegister) (manifest : PluginManifest) : Except VynkorError PluginRegistry :=
  if register.isMuxDevice then
    st.registry.registerDevice now register.deviceId msg.connId register.capabilities manifest msg.writeTx
      msg.owned register.deviceMeta
  else
    st.registry.registerWithDevice now register.pluginId msg.connId manifest msg.writeTx msg.owned
      register.deviceMeta

def refuseRegister : RegisterRefusal → RouterState β
  | .protocolMismatch text => st.sendError ctx now msg.writeTx .protocolMismatch text
  | .rejected reason => st.sendRegisterReject ctx now msg.writeTx reason

def sessionNonce : Bytes := if ctx.macSecret.isSome then now.nonce else []

def acknowledgeRegister (messageId pluginId : String) : RouterState β :=
  st.sendEnvelope ctx now msg.writeTx { messageId, payload := some (.pluginRegisterAck {
    accepted := true
    rejectReason := ""
    grantedPermissions := ((st.registry.get pluginId).map fun entry => entry.manifest.permissions).getD []
    sessionNonce := sessionNonce ctx now }) }

/-- Queued behind the acknowledgement, so that tagging starts after it. This
send waits for room; only a closed channel loses it. -/
def enableMac (pluginId : String) (deviceSecret : Option Bytes) : RouterState β :=
  match ctx.macSecret with
  | none => st
  | some secret =>
    let key := ctx.wire.deriveSessionKey (deviceSecret.getD secret) (sessionNonce ctx now) pluginId
    { st with net := st.net.send msg.writeTx (.enableMac key) }

def joinedEvent (registry : PluginRegistry) (pluginId : String) : Event where
  eventId := s!"sys-joined-{pluginId}-{now.unixMillis}"
  eventType := "system.plugin_joined"
  payloadJson := ctx.lifecyclePayload registry pluginId
  retryCount := 0

def publishJoined (pluginId : String) : RouterState β :=
  st.publish ctx now (joinedEvent ctx now st.registry pluginId)

def handleRegister (messageId : String) (register : PluginRegister) : RouterState β × Bool :=
  match ctx.admitRegister now register with
  | .error refusal => (st.refuseRegister ctx now msg refusal, true)
  | .ok (manifest, deviceSecret) =>
    match st.registerPlugin now msg register manifest with
    | .error error => (st.sendEnvelope ctx now msg.writeTx { messageId, payload := some (.pluginRegisterAck {
        accepted := false, rejectReason := error.toText, grantedPermissions := [], sessionNonce := [] }) }, false)
    | .ok registry =>
      let st := (st.setRegistry registry).acknowledgeRegister ctx now msg messageId register.pluginId
      let st := st.enableMac ctx now msg register.pluginId deviceSecret
      (st.publishJoined ctx now register.pluginId, false)

end RouterState
end Vynkor
