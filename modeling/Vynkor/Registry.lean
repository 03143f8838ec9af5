import Vynkor.Data.DashMap
import Vynkor.Wire

/-! The plugin registry: who is connected, which actions they provide, which
devices they belong to, and which routed actions still await a reply. -/

namespace Vynkor

/-- One reading of the clocks and of the random source: a monotonic instant in
nanoseconds, wall-clock milliseconds, and the nonce minted if one is needed. -/
structure Moment where
  instant : Nat
  unixMillis : Nat := 0
  nonce : Bytes := []

def Moment.unixSecs (now : Moment) : Nat := now.unixMillis / 1000

def fromMillis (millis : Nat) : Nat := millis * 1000000

def fromSecs (secs : Nat) : Nat := secs * 1000000000

structure DeviceMeta where
  deviceId : String := ""
  userId : String := ""
  os : DeviceOs := .unspecified
  arch : String := ""
  osVersion : String := ""
  capabilities : List String := []

structure DeviceInfo where
  deviceId : String
  os : DeviceOs
  arch : String
  osVersion : String
  capabilities : List String
  lastSeen : Nat
  state : DeviceState
  created : Nat := 0
  expires : Nat := 0
  deriving DecidableEq

/-- A routed action that awaits its provider's reply. -/
structure PendingAction where
  requesterWriteTx : Sender
  originalActionId : String
  requesterId : String
  deadline : Nat
  providerId : String
  streaming : Bool
  sessionAccepted : Bool
  lastActivity : Nat
  deriving DecidableEq

/-- A registered plugin holds the write channel of its own connection. -/
structure PluginEntry where
  pluginId : String
  connId : Nat
  manifest : PluginManifest
  writeTx : Sender
  registeredAt : Nat
  deviceId : String
  userId : String
  owned : writeTx.conn = connId

inductive ActionLookup where
  | notFound
  | found (entry : PluginEntry)
  | ambiguous (providers : List String)

/-- The two identity maps. They are inverse to each other: an entry is stored
under its own id, and its connection leads back to that id. -/
structure PluginTable where
  byPluginId : DashMap String PluginEntry
  byConnId : DashMap Nat String
  own : ∀ id entry, byPluginId.get id = some entry → entry.pluginId = id ∧ byConnId.get entry.connId = some id
  backed : ∀ conn id, byConnId.get conn = some id → ∃ entry, byPluginId.get id = some entry ∧ entry.connId = conn

/-- Which plugin provides an action. An action has either one declarer, in
`index`, or a list of colliding ones, in `ambiguous`. -/
structure ActionTable where
  index : DashMap String String := ∅
  ambiguous : DashMap String (List String) := ∅

namespace PluginTable

def empty : PluginTable where
  byPluginId := ∅
  byConnId := ∅
  own := by simp
  backed := by simp

def insert (table : PluginTable) (entry : PluginEntry) (freeConn : table.byConnId.get entry.connId = none)
    (freeId : table.byPluginId.get entry.pluginId = none) : PluginTable where
  byPluginId := table.byPluginId.insert entry.pluginId entry
  byConnId := table.byConnId.insert entry.connId entry.pluginId
  own := by
    intro id other found
    rw [DashMap.get_insert] at found
    split at found
    next same =>
      cases found
      exact ⟨same.symm, by rw [DashMap.get_insert_self, same]⟩
    · obtain ⟨named, mapped⟩ := table.own id other found
      refine ⟨named, ?_⟩
      rw [DashMap.get_insert, if_neg, mapped]
      intro same
      rw [same, freeConn] at mapped
      cases mapped
  backed := by
    intro conn id found
    rw [DashMap.get_insert] at found
    split at found
    next same =>
      cases found
      exact ⟨entry, DashMap.get_insert_self .., same.symm⟩
    · obtain ⟨other, stored, mapped⟩ := table.backed conn id found
      refine ⟨other, ?_, mapped⟩
      rw [DashMap.get_insert, if_neg, stored]
      intro same
      rw [same, freeId] at stored
      cases stored

def remove (table : PluginTable) (id : String) : PluginTable where
  byPluginId := table.byPluginId.erase id
  byConnId :=
    match table.byPluginId.get id with
    | some entry => table.byConnId.erase entry.connId
    | none => table.byConnId
  own := by
    intro other entry found
    rw [DashMap.get_erase] at found
    split at found
    · cases found
    next different =>
      obtain ⟨named, mapped⟩ := table.own other entry found
      refine ⟨named, ?_⟩
      split
      next removed stored =>
        rw [DashMap.get_erase, if_neg, mapped]
        intro same
        have back := (table.own id removed stored).2
        rw [← same, mapped] at back
        exact different (Option.some.inj back)
      · exact mapped
  backed := by
    intro conn other found
    have kept : table.byConnId.get conn = some other ∧ other ≠ id := by
      split at found
      next removed stored =>
        rw [DashMap.get_erase] at found
        split at found
        · cases found
        next different =>
          refine ⟨found, fun same => ?_⟩
          obtain ⟨entry, entryStored, entryConn⟩ := table.backed conn other found
          rw [same, stored] at entryStored
          cases entryStored
          exact different entryConn.symm
      next absent =>
        refine ⟨found, fun same => ?_⟩
        obtain ⟨entry, entryStored, _⟩ := table.backed conn other found
        rw [same, absent] at entryStored
        cases entryStored
    obtain ⟨entry, stored, mapped⟩ := table.backed conn other kept.1
    exact ⟨entry, by rw [DashMap.get_erase, if_neg kept.2, stored], mapped⟩

end PluginTable

namespace ActionTable

/-- A second declarer of an action moves both to the collision table. -/
def indexAction (table : ActionTable) (action pluginId : String) : ActionTable :=
  match table.ambiguous.get action with
  | some ids =>
    if pluginId ∈ ids then table
    else { table with ambiguous := table.ambiguous.insert action (ids ++ [pluginId]) }
  | none =>
    match table.index.get action with
    | some existing =>
      if existing = pluginId then table
      else {
        index := table.index.erase action
        ambiguous := table.ambiguous.insert action [existing, pluginId] }
    | none => { table with index := table.index.insert action pluginId }

def dropIndex (table : ActionTable) (action pluginId : String) : ActionTable :=
  if table.index.get action = some pluginId then { table with index := table.index.erase action } else table

/-- Reverse of `indexAction`: a single remaining declarer returns to the index. -/
def unindexAction (table : ActionTable) (action pluginId : String) : ActionTable :=
  match table.ambiguous.get action with
  | some ids =>
    match ids.filter (· ≠ pluginId) with
    | [only] => {
        index := table.index.insert action only
        ambiguous := table.ambiguous.erase action }
    | remaining =>
      { table with ambiguous := table.ambiguous.insert action remaining }.dropIndex action pluginId
  | none => table.dropIndex action pluginId

end ActionTable

structure PluginRegistry where
  plugins : PluginTable := .empty
  pongTimes : DashMap String Nat := ∅
  devices : DashMap String DeviceInfo := ∅
  pendingActions : DashMap String PendingAction := ∅
  actionRequirements : DashMap String (DashMap String PermissionType) := ∅
  actions : ActionTable := {}

def validateIdentifier (id : String) (maxLen : Nat) : Except VynkorError Unit :=
  if id = "" then .error (.invalidPluginId "must not be empty")
  else if maxLen < id.utf8ByteSize then
    .error (.invalidPluginId s!"too long ({id.utf8ByteSize} bytes, max {maxLen})")
  else if id = "." ∨ id = ".." then
    .error (.invalidPluginId "'.' and '..' are reserved path components")
  else if !id.toList.all fun char => char.isAlphanum || char == '-' || char == '_' || char == '.' then
    .error (.invalidPluginId "only ASCII letters, digits, '.', '-', '_' are allowed")
  else .ok ()

/-- Ids must fit the 32-byte frame target and must not be a reserved target. -/
def validatePluginId (id : String) : Except VynkorError Unit :=
  match validateIdentifier id 32 with
  | .error error => .error error
  | .ok () =>
    if id = "kernel" ∨ id = "*" then .error (.invalidPluginId s!"'{id}' is reserved") else .ok ()

/-- A registering plugin proves that its device is alive. -/
def upsertDevice (devices : DashMap String DeviceInfo) (deviceId : String) (details : DeviceMeta)
    (capabilities : List String) (nowMillis : Nat) : DashMap String DeviceInfo :=
  match devices.get deviceId with
  | some device => devices.insert deviceId { device with
      lastSeen := nowMillis, state := .online, os := details.os, arch := details.arch,
      osVersion := details.osVersion, capabilities := capabilities }
  | none => devices.insert deviceId {
      deviceId, os := details.os, arch := details.arch, osVersion := details.osVersion, capabilities,
      lastSeen := nowMillis, state := .online }

/-- An accepting reply to a streaming request keeps the entry; every other reply
of the routed provider consumes it. A reply from anyone else changes nothing. -/
def resolvePending (pendingActions : DashMap String PendingAction) (now : Nat) (internalId providerId : String)
    (statusOk : Bool) : DashMap String PendingAction × Option PendingAction :=
  match pendingActions.get internalId with
  | none => (pendingActions, none)
  | some pending =>
    if pending.providerId ≠ providerId then (pendingActions, none)
    else if statusOk && pending.streaming then
      let accepted := { pending with sessionAccepted := true, lastActivity := now }
      (pendingActions.insert internalId accepted, some accepted)
    else (pendingActions.erase internalId, some pending)

/-- Removes the given keys one by one and returns what they held. -/
def takeEach (pendingActions : DashMap String PendingAction) :
    List String → DashMap String PendingAction × List (String × PendingAction)
  | [] => (pendingActions, [])
  | key :: keys =>
    let rest := takeEach (pendingActions.erase key) keys
    match pendingActions.get key with
    | some pending => (rest.1, (key, pending) :: rest.2)
    | none => rest

namespace PluginRegistry

section
variable (registry : PluginRegistry)

def get (pluginId : String) : Option PluginEntry :=
  registry.plugins.byPluginId.get pluginId

def list : List PluginEntry := registry.plugins.byPluginId.values

def isRegistered (connId : Nat) : Bool := registry.plugins.byConnId.containsKey connId

def getByConnId (connId : Nat) : Option PluginEntry :=
  match registry.plugins.byConnId.get connId with
  | none => none
  | some pluginId => registry.get pluginId

/-- Both slots are reserved before anything is written, so a refused
registration leaves the registry as it was. -/
def insertEntry (now : Moment) (entry : PluginEntry)
    (details : DeviceMeta) (capabilities : List String) : Except VynkorError PluginRegistry :=
  match validatePluginId entry.pluginId with
  | .error error => .error error
  | .ok () =>
    if freeConn : registry.plugins.byConnId.get entry.connId = none then
      if freeId : registry.plugins.byPluginId.get entry.pluginId = none then
        .ok { registry with
          plugins := registry.plugins.insert entry freeConn freeId
          actions := entry.manifest.actions.foldl (fun table action => table.indexAction action entry.pluginId)
            registry.actions
          pongTimes := registry.pongTimes.insert entry.pluginId now.instant
          devices := upsertDevice registry.devices entry.deviceId details capabilities now.unixMillis }
      else .error (.pluginAlreadyRegistered entry.pluginId)
    else .error (.pluginAlreadyRegistered s!"connection {entry.connId} already has a registered plugin")

/-- Host plugins, which declare no device or user, fall back to `local` and `default`. -/
def registerWithDevice (now : Moment) (pluginId : String) (connId : Nat)
    (manifest : PluginManifest) (writeTx : Sender) (owned : writeTx.conn = connId) (details : DeviceMeta) :
    Except VynkorError PluginRegistry :=
  registry.insertEntry now
    { pluginId, connId, manifest, writeTx, owned
      registeredAt := now.unixMillis / 1000
      deviceId := if details.deviceId = "" then "local" else details.deviceId
      userId := if details.userId = "" then "default" else details.userId }
    details details.capabilities

/-- One registration for a whole device. Its actions are the fully qualified
capability names, whatever the manifest declared. -/
def registerDevice (now : Moment) (deviceId : String) (connId : Nat)
    (caps : List String) (manifest : PluginManifest) (writeTx : Sender) (owned : writeTx.conn = connId)
    (details : DeviceMeta) : Except VynkorError PluginRegistry :=
  registry.insertEntry now
    { pluginId := deviceId, connId, writeTx, owned
      manifest := { manifest with actions := caps.map fun cap => deviceId ++ "." ++ cap }
      registeredAt := now.unixMillis / 1000
      deviceId := if details.deviceId = "" then deviceId else details.deviceId
      userId := if details.userId = "" then "default" else details.userId }
    details caps

/-- The capability appears among the declared actions, qualified by any device
or by this one, or among the capabilities of the device record. -/
def declaresCap (entry : PluginEntry) (target dev cap : String) : Bool :=
  entry.manifest.actions.any (· == target)
    || entry.manifest.actions.any (fun action =>
      match Text.splitOnce action '.' with
      | some (_, name) => name == cap
      | none => false)
    || match registry.devices.get dev with
      | some device => device.capabilities.any (· == cap)
      | none => false

/-- The device before the first dot of the target, provided it declares the
capability after the dot. -/
def getDeviceCap (target : String) : Option PluginEntry :=
  match Text.splitOnce target '.' with
  | none => none
  | some (dev, cap) =>
    match registry.get dev with
    | none => none
    | some entry => if registry.declaresCap entry target dev cap then some entry else none

/-- The exact id first, then the device that declares the capability. -/
def getMux (target : String) : Option PluginEntry :=
  match registry.get target with
  | some entry => some entry
  | none => registry.getDeviceCap target

def unregister (pluginId : String) : PluginRegistry :=
  match registry.get pluginId with
  | none => registry
  | some entry =>
    let plugins := registry.plugins.remove pluginId
    { registry with
      plugins
      pongTimes := registry.pongTimes.erase pluginId
      actionRequirements := registry.actionRequirements.erase pluginId
      actions := entry.manifest.actions.foldl (fun table action => table.unindexAction action pluginId)
        registry.actions
      devices :=
        if plugins.byPluginId.values.any fun other => other.deviceId == entry.deviceId then registry.devices
        else registry.devices.update entry.deviceId fun device => { device with state := .offline } }

def recordPong (now : Moment) (pluginId : String) : PluginRegistry :=
  { registry with
    pongTimes := registry.pongTimes.insert pluginId now.instant
    devices :=
      match registry.get pluginId with
      | none => registry.devices
      | some entry => registry.devices.update entry.deviceId fun device =>
          { device with lastSeen := now.unixMillis, state := .online } }

def setActionRequirements (pluginId : String) (requirements : DashMap String PermissionType) : PluginRegistry :=
  { registry with actionRequirements := registry.actionRequirements.insert pluginId requirements }

def actionRequirement (pluginId action : String) : Option PermissionType :=
  match registry.actionRequirements.get pluginId with
  | none => none
  | some requirements => requirements.get action

def findActionProvider (action : String) : ActionLookup :=
  match registry.actions.ambiguous.get action with
  | some ids => .ambiguous ids
  | none =>
    match registry.actions.index.get action with
    | none => .notFound
    | some providerId =>
      match registry.get providerId with
      | some entry => .found entry
      | none => .notFound

def registerPendingAction (internalId : String) (pending : PendingAction) : PluginRegistry :=
  { registry with pendingActions := registry.pendingActions.insert internalId pending }

def getPendingAction (internalId : String) : Option PendingAction :=
  registry.pendingActions.get internalId

def takePendingAction (internalId : String) : PluginRegistry × Option PendingAction :=
  ({ registry with pendingActions := registry.pendingActions.erase internalId },
    registry.pendingActions.get internalId)

def resolveActionResponse (now : Moment) (internalId providerId : String)
    (statusOk : Bool) : PluginRegistry × Option PendingAction :=
  let resolved := resolvePending registry.pendingActions now.instant internalId providerId statusOk
  ({ registry with pendingActions := resolved.1 }, resolved.2)

def touchPendingAction (now : Moment) (internalId : String) : PluginRegistry :=
  { registry with pendingActions :=
      registry.pendingActions.update internalId fun pending => { pending with lastActivity := now.instant } }

def sweepIdleSessions (now idleTimeout : Nat) : PluginRegistry × List (String × PendingAction) :=
  let idleKeys := (registry.pendingActions.toList.filter fun (_, pending) =>
    pending.sessionAccepted && decide (idleTimeout < now - pending.lastActivity)).map Prod.fst
  let taken := takeEach registry.pendingActions idleKeys
  ({ registry with pendingActions := taken.1 }, taken.2)

def sweepExpiredActions (now : Nat) : PluginRegistry × List PendingAction :=
  let expiredKeys := (registry.pendingActions.toList.filter fun (_, pending) =>
    !pending.sessionAccepted && decide (pending.deadline ≤ now)).map Prod.fst
  let taken := takeEach registry.pendingActions expiredKeys
  ({ registry with pendingActions := taken.1 }, taken.2.map Prod.snd)

def countPendingActionsFor (requesterId providerId : String) : Nat :=
  (registry.pendingActions.values.countP fun pending =>
    pending.requesterId == requesterId && pending.providerId == providerId) % UInt32.size

/-- The requester knows its own action id only, so its messages are matched by
that id; with several candidates the iteration order decides. -/
def findPendingInternalId (requesterId originalActionId : String) : Option String :=
  (registry.pendingActions.toList.find? fun (_, pending) =>
    pending.requesterId == requesterId && pending.originalActionId == originalActionId).map Prod.fst

end

section Identity
variable {registry : PluginRegistry} {entry other : PluginEntry} {id otherId target : String} {conn : Nat}

theorem get_own (found : registry.get id = some entry) : entry.pluginId = id :=
  (registry.plugins.own id entry found).1

theorem get_registered (found : registry.get id = some entry) : registry.get entry.pluginId = some entry := by
  rw [get_own found]
  exact found

theorem getByConnId_eq_some :
    registry.getByConnId conn = some entry ↔ registry.get entry.pluginId = some entry ∧ entry.connId = conn := by
  simp only [getByConnId]
  constructor
  · intro found
    split at found
    · cases found
    next id mapped =>
      obtain ⟨backed, stored, sameConn⟩ := registry.plugins.backed conn id mapped
      have same : backed = entry := Option.some.inj (stored.symm.trans found)
      subst same
      exact ⟨get_registered found, sameConn⟩
  · intro mapped
    obtain ⟨stored, sameConn⟩ := mapped
    have mapped := (registry.plugins.own _ _ stored).2
    rw [sameConn] at mapped
    rw [mapped]
    exact stored

theorem get_same_conn (found : registry.get id = some entry)
    (foundOther : registry.get otherId = some other) (same : entry.connId = other.connId) : entry = other := by
  have first : registry.getByConnId entry.connId = some entry :=
    getByConnId_eq_some.mpr ⟨get_registered found, rfl⟩
  have second : registry.getByConnId entry.connId = some other :=
    getByConnId_eq_some.mpr ⟨get_registered foundOther, same.symm⟩
  exact Option.some.inj (first.symm.trans second)

theorem get_same_channel (found : registry.get id = some entry)
    (foundOther : registry.get otherId = some other) (same : entry.writeTx = other.writeTx) : entry = other := by
  apply get_same_conn found foundOther
  rw [← entry.owned, ← other.owned, same]

theorem mem_list : entry ∈ registry.list ↔ registry.get entry.pluginId = some entry := by
  simp only [list]
  rw [DashMap.mem_values]
  constructor
  · intro stored
    obtain ⟨id, found⟩ := stored
    exact get_registered found
  · intro found
    exact ⟨entry.pluginId, found⟩

theorem nodup_list : registry.list.Nodup := by
  apply List.Nodup.of_map PluginEntry.pluginId
  exact DashMap.nodup_values _ _ fun id entry found => (registry.plugins.own id entry found).1

theorem getMux_eq_get (found : registry.get id = some entry) : registry.getMux id = some entry := by
  simp [getMux, found]

theorem getDeviceCap_some (found : registry.getDeviceCap target = some entry) :
    ∃ cap, Text.splitOnce target '.' = some (entry.pluginId, cap) ∧ registry.get entry.pluginId = some entry := by
  simp only [getDeviceCap] at found
  split at found
  · cases found
  next dev cap split =>
    split at found
    · cases found
    next device registered =>
      split at found
      · cases found
        have named := get_own registered
        subst named
        exact ⟨cap, split, registered⟩
      · cases found

theorem getMux_registered (found : registry.getMux target = some entry) :
    registry.get entry.pluginId = some entry := by
  simp only [getMux] at found
  split at found
  next direct stored =>
    cases found
    exact get_registered stored
  · obtain ⟨cap, _, registered⟩ := getDeviceCap_some found
    exact registered

theorem isRegistered_eq : registry.isRegistered conn = (registry.getByConnId conn).isSome := by
  simp only [isRegistered, DashMap.containsKey, getByConnId]
  split
  next absent => simp [absent]
  next id mapped =>
    obtain ⟨backed, stored, _⟩ := registry.plugins.backed conn id mapped
    simp [mapped, get, stored]

end Identity
end PluginRegistry
end Vynkor
