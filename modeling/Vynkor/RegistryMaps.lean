import Vynkor.Data.Method
import Vynkor.Registry

/-! The methods of the registry as they run, one map operation after the other. A
method that fails leaves behind what it has written by then. -/

namespace Vynkor

/-- The maps of the registry, with nothing said about how they fit together. -/
structure RegistryMaps where
  byPluginId : DashMap String PluginEntry := ∅
  byConnId : DashMap Nat String := ∅
  pongTimes : DashMap String Nat := ∅
  devices : DashMap String DeviceInfo := ∅
  pendingActions : DashMap String PendingAction := ∅
  actionRequirements : DashMap String (DashMap String PermissionType) := ∅
  actions : ActionTable := {}

abbrev RegistryM := Method RegistryMaps VynkorError

namespace RegistryMaps

def connSlot (connId : Nat) : RegistryM Unit := do
  if (← get).byConnId.containsKey connId then
    throw (.pluginAlreadyRegistered s!"connection {connId} already has a registered plugin")

def pluginSlot (pluginId : String) : RegistryM Unit := do
  if (← get).byPluginId.containsKey pluginId then throw (.pluginAlreadyRegistered pluginId)

/-- The part that `register_with_device` and `register_device` share. The entry
itself is written last. -/
def insertEntry (now : Moment) (entry : PluginEntry) (details : DeviceMeta) (capabilities : List String) :
    RegistryM Unit := do
  ofExcept (validatePluginId entry.pluginId)
  connSlot entry.connId
  pluginSlot entry.pluginId
  modify fun maps => { maps with byConnId := maps.byConnId.insert entry.connId entry.pluginId }
  entry.manifest.actions.forM fun action =>
    modify fun maps => { maps with actions := maps.actions.indexAction action entry.pluginId }
  modify fun maps => { maps with pongTimes := maps.pongTimes.insert entry.pluginId now.instant }
  modify fun maps => { maps with
    devices := upsertDevice maps.devices entry.deviceId details capabilities now.unixMillis }
  modify fun maps => { maps with byPluginId := maps.byPluginId.insert entry.pluginId entry }

def registerWithDevice (now : Moment) (pluginId : String) (connId : Nat) (manifest : PluginManifest)
    (writeTx : Sender) (owned : writeTx.conn = connId) (details : DeviceMeta) : RegistryM Unit :=
  insertEntry now
    { pluginId, connId, manifest, writeTx, owned
      registeredAt := now.unixMillis / 1000
      deviceId := if details.deviceId = "" then "local" else details.deviceId
      userId := if details.userId = "" then "default" else details.userId }
    details details.capabilities

def registerDevice (now : Moment) (deviceId : String) (connId : Nat) (caps : List String)
    (manifest : PluginManifest) (writeTx : Sender) (owned : writeTx.conn = connId) (details : DeviceMeta) :
    RegistryM Unit :=
  insertEntry now
    { pluginId := deviceId, connId, writeTx, owned
      manifest := { manifest with actions := caps.map fun cap => deviceId ++ "." ++ cap }
      registeredAt := now.unixMillis / 1000
      deviceId := if details.deviceId = "" then deviceId else details.deviceId
      userId := if details.userId = "" then "default" else details.userId }
    details caps

def unregister (pluginId : String) : RegistryM Unit := do
  match (← get).byPluginId.get pluginId with
  | none => return
  | some entry =>
    modify fun maps => { maps with byPluginId := maps.byPluginId.erase pluginId }
    modify fun maps => { maps with byConnId := maps.byConnId.erase entry.connId }
    modify fun maps => { maps with pongTimes := maps.pongTimes.erase pluginId }
    modify fun maps => { maps with actionRequirements := maps.actionRequirements.erase pluginId }
    entry.manifest.actions.forM fun action =>
      modify fun maps => { maps with actions := maps.actions.unindexAction action pluginId }
    -- the device is offline once none of its plugins remain
    if !(← get).byPluginId.values.any fun other => other.deviceId == entry.deviceId then
      modify fun maps => { maps with
        devices := maps.devices.update entry.deviceId fun device => { device with state := .offline } }

def findActionProvider (maps : RegistryMaps) (action : String) : ActionLookup :=
  match maps.actions.ambiguous.get action with
  | some ids => .ambiguous ids
  | none =>
    match maps.actions.index.get action with
    | none => .notFound
    | some providerId =>
      match maps.byPluginId.get providerId with
      | some entry => .found entry
      | none => .notFound

end RegistryMaps

/-- A call of one of the methods that change who is registered. -/
inductive RegistryCall where
  | registerWithDevice (now : Moment) (pluginId : String) (connId : Nat) (manifest : PluginManifest)
      (writeTx : Sender) (owned : writeTx.conn = connId) (details : DeviceMeta)
  | registerDevice (now : Moment) (deviceId : String) (connId : Nat) (caps : List String)
      (manifest : PluginManifest) (writeTx : Sender) (owned : writeTx.conn = connId) (details : DeviceMeta)
  | unregister (pluginId : String)

namespace RegistryCall

def method : RegistryCall → RegistryM Unit
  | .registerWithDevice now pluginId connId manifest writeTx owned details =>
    RegistryMaps.registerWithDevice now pluginId connId manifest writeTx owned details
  | .registerDevice now deviceId connId caps manifest writeTx owned details =>
    RegistryMaps.registerDevice now deviceId connId caps manifest writeTx owned details
  | .unregister pluginId => RegistryMaps.unregister pluginId

def run (call : RegistryCall) (maps : RegistryMaps) : Except VynkorError Unit × RegistryMaps :=
  call.method.exec maps

end RegistryCall

/-- Calls follow each other whether they fail or not. -/
def RegistryMaps.step (maps : RegistryMaps) (call : RegistryCall) : Option RegistryMaps := some (call.run maps).2

end Vynkor
