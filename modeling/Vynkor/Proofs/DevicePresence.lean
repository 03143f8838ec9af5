import Vynkor.Proofs.RegistryCalls

/-! Which devices the registry knows, and which of them it takes to be online. The state
of a device is set by its plugins as they register and answer, and cleared when the last
of them leaves. -/

namespace Vynkor.Proofs
open DashMap Execution

section Operations
variable {registry updated : PluginRegistry} {now : Moment} {entry : PluginEntry} {details : DeviceMeta}
  {capabilities : List String} {id deviceId : String}

def presence (registry : PluginRegistry) (deviceId : String) : Option DeviceState :=
  (registry.devices.get deviceId).map DeviceInfo.state

def InUse (registry : PluginRegistry) (deviceId : String) : Prop :=
  ∃ id entry, registry.get id = some entry ∧ entry.deviceId = deviceId

theorem presence_insertEntry (done : registry.insertEntry now entry details capabilities = .ok updated)
    (deviceId : String) :
    presence updated deviceId = if deviceId = entry.deviceId then some .online else presence registry deviceId := by
  simp only [presence, insertEntry_devices done, upsertDevice]
  split
  · rw [get_insert]
    split
    · rfl
    · rfl
  · rw [get_insert]
    split
    · rfl
    · rfl

theorem scan_iff (found : registry.get id = some entry) :
    ((registry.plugins.remove id).byPluginId.values.any fun other => other.deviceId == entry.deviceId) = true ↔
      InUse (registry.unregister id) entry.deviceId := by
  have left : (registry.unregister id).plugins = registry.plugins.remove id := by
    simp only [PluginRegistry.unregister, found]
  simp only [List.any_eq_true, mem_values, beq_iff_eq, InUse, PluginRegistry.get, left]
  constructor
  · rintro ⟨other, ⟨key, stored⟩, same⟩
    exact ⟨key, other, stored, same⟩
  · rintro ⟨key, other, stored, same⟩
    exact ⟨other, ⟨key, stored⟩, same⟩

theorem presence_unregister (found : registry.get id = some entry) (deviceId : String) :
    presence (registry.unregister id) deviceId = presence registry deviceId ∧
      InUse (registry.unregister id) entry.deviceId ∨
    presence (registry.unregister id) deviceId = (if deviceId = entry.deviceId then
      (presence registry deviceId).map fun _ => .offline else presence registry deviceId) ∧
      ¬InUse (registry.unregister id) entry.deviceId := by
  rw [← scan_iff found]
  simp only [presence, PluginRegistry.unregister, found]
  split
  next scanned => exact .inl ⟨rfl, scanned⟩
  next alone =>
    refine .inr ⟨?_, alone⟩
    rw [get_update]
    split
    · rw [Option.map_map, Option.map_map]
      rfl
    · rfl

theorem presence_recordPong (registry : PluginRegistry) (now : Moment) (id deviceId : String) :
    presence (registry.recordPong now id) deviceId = presence registry deviceId ∨
      presence (registry.recordPong now id) deviceId = (presence registry deviceId).map (fun _ => .online) ∧
        InUse registry deviceId := by
  simp only [presence, PluginRegistry.recordPong]
  split
  · exact .inl rfl
  next entry found =>
    rw [get_update]
    split
    next same =>
      refine .inr ⟨?_, id, entry, found, same.symm⟩
      rw [Option.map_map, Option.map_map]
      rfl
    · exact .inl rfl

end Operations

/-- A call of a method that may change who is registered or which devices are online. -/
inductive PresenceCall where
  | registry (call : RegistryCall)
  | recordPong (now : Moment) (pluginId : String)

def effectiveDevice : RegistryCall → Option String
  | .registerWithDevice _ _ _ _ _ _ details => some (if details.deviceId = "" then "local" else details.deviceId)
  | .registerDevice _ deviceId _ _ _ _ _ details =>
    some (if details.deviceId = "" then deviceId else details.deviceId)
  | .unregister _ => none

/-- `seen` lists the devices of the registrations so far; no method reads it. -/
structure Presence where
  registry : PluginRegistry := {}
  seen : List String := []

/-- Calls follow each other whether they fail or not. -/
def Presence.step (state : Presence) : PresenceCall → Option Presence
  | .registry call =>
    match operation state.registry call with
    | .ok later => some { registry := later, seen := state.seen ++ (effectiveDevice call).toList }
    | .error _ => some state
  | .recordPong now pluginId => some { state with registry := state.registry.recordPong now pluginId }

section History
variable {state next : Presence} {call : PresenceCall}

/-- A device is known once a plugin has registered for it, and online as long as one is
registered. -/
structure UpToDate (state : Presence) : Prop where
  known : ∀ deviceId, (presence state.registry deviceId).isSome = true ↔ deviceId ∈ state.seen
  online : ∀ deviceId, presence state.registry deviceId = some .online ↔ InUse state.registry deviceId

theorem upToDate_empty : UpToDate {} := by
  constructor
  · intro deviceId
    simp [presence]
  · intro deviceId
    simp [presence, InUse, PluginRegistry.get, PluginTable.empty]

theorem UpToDate.inserted (current : UpToDate state) {now entry details capabilities updated}
    (done : state.registry.insertEntry now entry details capabilities = .ok updated) :
    UpToDate { registry := updated, seen := state.seen ++ [entry.deviceId] } := by
  have inserted := insertEntry_ok done
  constructor
  · intro deviceId
    rw [presence_insertEntry done, List.mem_append, List.mem_singleton, ← current.known]
    split
    next same => simp [same]
    next different => simp [different]
  · intro deviceId
    rw [presence_insertEntry done]
    split
    next same =>
      have stored := inserted.get entry.pluginId
      rw [if_pos rfl] at stored
      exact iff_of_true rfl ⟨entry.pluginId, entry, stored, same.symm⟩
    next different =>
      rw [current.online]
      constructor
      · rintro ⟨id, other, found, same⟩
        exact ⟨id, other, inserted.keeps found, same⟩
      · rintro ⟨id, other, found, same⟩
        rcases inserted.found found with old | ⟨_, rfl⟩
        · exact ⟨id, other, old, same⟩
        · exact absurd same.symm different

theorem UpToDate.unregistered (current : UpToDate state) (id : String) :
    UpToDate { state with registry := state.registry.unregister id } := by
  cases found : state.registry.get id with
  | none =>
    have same : state.registry.unregister id = state.registry := by simp only [PluginRegistry.unregister, found]
    rw [same]
    exact current
  | some entry =>
    have remains : ∀ deviceId, InUse (state.registry.unregister id) deviceId → InUse state.registry deviceId := by
      rintro deviceId ⟨other, stored, kept, same⟩
      rw [get_unregister] at kept
      split at kept
      · cases kept
      · exact ⟨other, stored, kept, same⟩
    have others : ∀ deviceId, deviceId ≠ entry.deviceId →
        InUse state.registry deviceId → InUse (state.registry.unregister id) deviceId := by
      rintro deviceId different ⟨other, stored, kept, same⟩
      have apart : other ≠ id := by
        rintro rfl
        rw [found] at kept
        cases kept
        exact different same.symm
      refine ⟨other, stored, ?_, same⟩
      rw [get_unregister, if_neg apart]
      exact kept
    constructor
    · intro deviceId
      rw [← current.known]
      rcases presence_unregister found deviceId with ⟨same, _⟩ | ⟨same, _⟩
      · rw [same]
      · rw [same]
        split
        · rw [Option.isSome_map]
        · rfl
    · intro deviceId
      rcases presence_unregister found deviceId with ⟨same, used⟩ | ⟨same, left⟩
      · rw [same, current.online]
        constructor
        · intro before
          by_cases own : deviceId = entry.deviceId
          · rw [own]
            exact used
          · exact others deviceId own before
        · exact remains deviceId
      · rw [same]
        split
        next own =>
          rw [own]
          exact iff_of_false (by simp) left
        next different =>
          rw [current.online]
          exact ⟨others deviceId different, remains deviceId⟩

theorem UpToDate.ponged (current : UpToDate state) (now : Moment) (id : String) :
    UpToDate { state with registry := state.registry.recordPong now id } := by
  have plugins : ∀ deviceId, InUse (state.registry.recordPong now id) deviceId ↔ InUse state.registry deviceId :=
    fun _ => Iff.rfl
  constructor
  · intro deviceId
    rw [← current.known]
    rcases presence_recordPong state.registry now id deviceId with same | ⟨same, _⟩
    · rw [same]
    · rw [same, Option.isSome_map]
  · intro deviceId
    rw [plugins]
    rcases presence_recordPong state.registry now id deviceId with same | ⟨same, used⟩
    · rw [same, current.online]
    · rw [same, (current.online deviceId).mpr used]
      exact iff_of_true rfl used

theorem UpToDate.step (current : UpToDate state) (step : state.step call = some next) : UpToDate next := by
  cases call with
  | recordPong now pluginId =>
    cases step
    exact current.ponged now pluginId
  | registry call =>
    simp only [Presence.step] at step
    split at step
    next later done =>
      cases step
      cases call with
      | registerWithDevice now pluginId connId manifest writeTx owned details => exact current.inserted done
      | registerDevice now deviceId connId caps manifest writeTx owned details => exact current.inserted done
      | unregister pluginId =>
        cases done
        simp only [effectiveDevice, Option.toList_none, List.append_nil]
        exact current.unregistered pluginId
    · cases step
      exact current

end History

/-- After any calls on an empty registry a device has a record just when some plugin was
ever registered for it, and is online just when a registered plugin belongs to it. -/
theorem presence_follows_registrations {state : Presence} (run : Run Presence.step unguarded {} state)
    (deviceId : String) :
    ((state.registry.devices.get deviceId).isSome = true ↔ deviceId ∈ state.seen) ∧
      ((state.registry.devices.get deviceId).map DeviceInfo.state = some .online ↔
        ∃ id entry, state.registry.get id = some entry ∧ entry.deviceId = deviceId) := by
  have current : UpToDate state := by
    apply run.preserves
    · exact upToDate_empty
    intro before call after _ step current
    exact current.step step
  have known := current.known deviceId
  rw [presence, Option.isSome_map] at known
  exact ⟨known, current.online deviceId⟩

theorem phone_channel (connId : Nat) : Sender.conn { conn := connId } = connId := rfl

def ofPhone (id : String) (connId : Nat) : PresenceCall :=
  .registry (.registerWithDevice { instant := 1 } id connId {} { conn := connId } (phone_channel connId)
    { deviceId := "phone" })

/-- Two plugins of a phone register; the first leaves, and answers once more after that.
The other is still there. -/
def phoneCalls : List PresenceCall := [
  ofPhone "camera" 1, .registry (offers "notes" { conn := 2 } []), ofPhone "mic" 3,
  .registry (.unregister "camera"), .recordPong { instant := 2 } "camera"]

def inCall : Presence := (exec Presence.step unguarded {} phoneCalls).get (by decide +kernel)

def hungUp : Presence :=
  (exec Presence.step unguarded {} (phoneCalls ++ [.registry (.unregister "mic")])).get (by decide +kernel)

theorem presence_follows_registrations_phone :
    (∃ id entry, inCall.registry.get id = some entry ∧ entry.deviceId = "phone") ∧
      (hungUp.registry.devices.get "phone").isSome = true ∧
      ¬(∃ id entry, hungUp.registry.get id = some entry ∧ entry.deviceId = "phone") ∧
      (hungUp.registry.devices.get "local").isSome = true ∧ "camera" ∉ hungUp.seen := by
  have talked : Run Presence.step unguarded {} inCall := exec_get_run (by decide +kernel)
  have left : Run Presence.step unguarded {} hungUp := exec_get_run (by decide +kernel)
  refine ⟨(presence_follows_registrations talked "phone").2.mp (by decide +kernel),
    (presence_follows_registrations left "phone").1.mpr (by decide +kernel), ?_,
    (presence_follows_registrations left "local").1.mpr (by decide +kernel), by decide +kernel⟩
  rw [← (presence_follows_registrations left "phone").2]
  decide +kernel

end Vynkor.Proofs
