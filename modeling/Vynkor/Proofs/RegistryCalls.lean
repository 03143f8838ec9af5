import Vynkor.Data.Execution
import Vynkor.Proofs.RegistryOps
import Vynkor.RegistryMaps

/-! Run on the maps of a registry, a method does what the registry's own operation
says, and a method that fails has written nothing. So whatever every operation
preserves holds of the maps after any sequence of calls. -/

namespace Vynkor.Proofs
open Execution RegistryMaps

def mapsOf (registry : PluginRegistry) : RegistryMaps where
  byPluginId := registry.plugins.byPluginId
  byConnId := registry.plugins.byConnId
  pongTimes := registry.pongTimes
  devices := registry.devices
  pendingActions := registry.pendingActions
  actionRequirements := registry.actionRequirements
  actions := registry.actions

def operation (registry : PluginRegistry) : RegistryCall → Except VynkorError PluginRegistry
  | .registerWithDevice now pluginId connId manifest writeTx owned details =>
    registry.registerWithDevice now pluginId connId manifest writeTx owned details
  | .registerDevice now deviceId connId caps manifest writeTx owned details =>
    registry.registerDevice now deviceId connId caps manifest writeTx owned details
  | .unregister pluginId => .ok (registry.unregister pluginId)

section Methods
variable {now : Moment} {entry : PluginEntry} {details : DeviceMeta} {capabilities : List String}
  {maps : RegistryMaps} {registry : PluginRegistry} {error : VynkorError}

theorem foldl_actions (change : ActionTable → String → ActionTable) (names : List String) (maps : RegistryMaps) :
    names.foldl (fun (maps : RegistryMaps) name => { maps with actions := change maps.actions name }) maps =
      { maps with actions := names.foldl change maps.actions } := by
  induction names generalizing maps with
  | nil => rfl
  | cons name rest ih => exact ih _

theorem connSlot_exec (connId : Nat) : (connSlot connId).exec maps =
    if maps.byConnId.containsKey connId then
      (.error (.pluginAlreadyRegistered s!"connection {connId} already has a registered plugin"), maps)
    else (.ok (), maps) := by
  simp only [connSlot, Method.exec_bind, Method.exec_get, Method.exec_ite, Method.exec_throw, Method.exec_pure]

theorem pluginSlot_exec (pluginId : String) : (pluginSlot pluginId).exec maps =
    if maps.byPluginId.containsKey pluginId then (.error (.pluginAlreadyRegistered pluginId), maps)
    else (.ok (), maps) := by
  simp only [pluginSlot, Method.exec_bind, Method.exec_get, Method.exec_ite, Method.exec_throw, Method.exec_pure]

theorem insertEntry_exec : (insertEntry now entry details capabilities).exec maps =
    match validatePluginId entry.pluginId with
    | .error error => (.error error, maps)
    | .ok () =>
      if maps.byConnId.containsKey entry.connId then
        (.error (.pluginAlreadyRegistered s!"connection {entry.connId} already has a registered plugin"), maps)
      else if maps.byPluginId.containsKey entry.pluginId then
        (.error (.pluginAlreadyRegistered entry.pluginId), maps)
      else (.ok (), { maps with
        byConnId := maps.byConnId.insert entry.connId entry.pluginId
        actions := entry.manifest.actions.foldl (fun table action => table.indexAction action entry.pluginId) maps.actions
        pongTimes := maps.pongTimes.insert entry.pluginId now.instant
        devices := upsertDevice maps.devices entry.deviceId details capabilities now.unixMillis
        byPluginId := maps.byPluginId.insert entry.pluginId entry }) := by
  rw [insertEntry, Method.exec_bind, Method.exec_ofExcept]
  cases validatePluginId entry.pluginId with
  | error error => rfl
  | ok =>
    dsimp only
    rw [Method.exec_bind, connSlot_exec]
    by_cases taken : maps.byConnId.containsKey entry.connId = true
    · rw [if_pos taken, if_pos taken]
    · rw [if_neg taken, if_neg taken]
      dsimp only
      rw [Method.exec_bind, pluginSlot_exec]
      by_cases known : maps.byPluginId.containsKey entry.pluginId = true
      · rw [if_pos known, if_pos known]
      · rw [if_neg known, if_neg known]
        simp only [Method.exec_bind, Method.exec_modify, Method.exec_forM_modify]
        rw [foldl_actions fun table action => table.indexAction action entry.pluginId]

/-- Nothing is written before both slots are known to be vacant. -/
theorem insertEntry_mapsOf : (insertEntry now entry details capabilities).exec (mapsOf registry) =
    match registry.insertEntry now entry details capabilities with
    | .ok later => (.ok (), mapsOf later)
    | .error error => (.error error, mapsOf registry) := by
  rw [insertEntry_exec]
  simp only [PluginRegistry.insertEntry, mapsOf, DashMap.containsKey]
  cases validatePluginId entry.pluginId with
  | error error => rfl
  | ok =>
    by_cases freeConn : registry.plugins.byConnId.get entry.connId = none
    · by_cases freeId : registry.plugins.byPluginId.get entry.pluginId = none
      · simp [freeConn, freeId, PluginTable.insert]
      · simp [freeConn, freeId, Option.isSome_iff_ne_none]
    · simp [freeConn, Option.isSome_iff_ne_none]

theorem unregister_exec (pluginId : String) : (RegistryMaps.unregister pluginId).exec maps =
    match maps.byPluginId.get pluginId with
    | none => (.ok (), maps)
    | some entry => (.ok (), { maps with
        byPluginId := maps.byPluginId.erase pluginId
        byConnId := maps.byConnId.erase entry.connId
        pongTimes := maps.pongTimes.erase pluginId
        actionRequirements := maps.actionRequirements.erase pluginId
        actions := entry.manifest.actions.foldl (fun table action => table.unindexAction action pluginId) maps.actions
        devices :=
          if (DashMap.values (maps.byPluginId.erase pluginId)).any fun other => other.deviceId == entry.deviceId then
            maps.devices
          else maps.devices.update entry.deviceId fun device => { device with state := .offline } }) := by
  simp only [RegistryMaps.unregister, Method.exec_bind, Method.exec_get]
  cases maps.byPluginId.get pluginId with
  | none => rfl
  | some entry =>
    simp only [Method.exec_bind, Method.exec_modify, Method.exec_forM_modify, Method.exec_get]
    rw [foldl_actions fun table action => table.unindexAction action pluginId]
    cases (DashMap.values (maps.byPluginId.erase pluginId)).any fun other => other.deviceId == entry.deviceId with
    | true => rfl
    | false => rfl

theorem unregister_mapsOf (pluginId : String) :
    (RegistryMaps.unregister pluginId).exec (mapsOf registry) = (.ok (), mapsOf (registry.unregister pluginId)) := by
  rw [unregister_exec]
  simp only [PluginRegistry.unregister, PluginRegistry.get, mapsOf]
  cases found : registry.plugins.byPluginId.get pluginId with
  | none => rfl
  | some entry => simp [PluginTable.remove, found]

theorem run_mapsOf (call : RegistryCall) : call.run (mapsOf registry) =
    match operation registry call with
    | .ok later => (.ok (), mapsOf later)
    | .error error => (.error error, mapsOf registry) := by
  cases call with
  | registerWithDevice => exact insertEntry_mapsOf
  | registerDevice => exact insertEntry_mapsOf
  | unregister pluginId => exact unregister_mapsOf pluginId

theorem insertEntry_failed
    (failed : ((insertEntry now entry details capabilities).exec maps).1 = .error error) :
    ((insertEntry now entry details capabilities).exec maps).2 = maps := by
  rw [insertEntry_exec] at failed ⊢
  cases valid : validatePluginId entry.pluginId with
  | error error => rfl
  | ok =>
    simp only [valid] at failed ⊢
    split
    · rfl
    next free =>
      rw [if_neg free] at failed
      split
      · rfl
      next vacant =>
        rw [if_neg vacant] at failed
        cases failed

theorem run_failed {call : RegistryCall} (failed : (call.run maps).1 = .error error) :
    (call.run maps).2 = maps := by
  cases call with
  | registerWithDevice => exact insertEntry_failed failed
  | registerDevice => exact insertEntry_failed failed
  | unregister pluginId =>
    simp only [RegistryCall.run, RegistryCall.method, unregister_exec] at failed
    split at failed
    · cases failed
    · cases failed

end Methods

section Sequences
variable {registry later : PluginRegistry} {maps : RegistryMaps} {call : RegistryCall}

theorem run_registry {valid : PluginRegistry → Prop} (initial : valid {})
    (keeps : ∀ registry call later, operation registry call = .ok later → valid registry → valid later)
    (run : Run RegistryMaps.step unguarded {} maps) : ∃ registry, mapsOf registry = maps ∧ valid registry := by
  have start : ∃ registry, mapsOf registry = {} ∧ valid registry := ⟨{}, rfl, initial⟩
  apply run.preserves start
  intro state call next _ step reached
  obtain ⟨registry, rfl, holds⟩ := reached
  cases step
  rw [run_mapsOf]
  cases done : operation registry call with
  | error error => exact ⟨registry, rfl, holds⟩
  | ok later => exact ⟨later, rfl, keeps registry call later done holds⟩

/-- Registrations have valid ids, and pong times are kept for just them. -/
structure Registered (registry : PluginRegistry) : Prop where
  valid : ∀ id entry, registry.get id = some entry → validatePluginId id = .ok ()
  pongs : ∀ id, (registry.pongTimes.get id).isSome = (registry.get id).isSome

theorem registered_empty : Registered {} := by
  constructor
  · intro id entry found
    cases found
  · intro id
    rfl

theorem Registered.insert {now entry details capabilities} (held : Registered registry)
    (done : registry.insertEntry now entry details capabilities = .ok later) : Registered later := by
  have inserted : Inserted registry later entry := insertEntry_ok done
  obtain ⟨accepted, _, _, rfl⟩ := insertEntry_some done
  constructor
  · intro id other found
    rcases inserted.found found with old | ⟨same, _⟩
    · exact held.valid id other old
    · rw [same]
      exact accepted
  · intro id
    rw [inserted.get]
    simp only [DashMap.get_insert]
    split
    · rfl
    · exact held.pongs id

theorem Registered.unregister (held : Registered registry) (pluginId : String) :
    Registered (registry.unregister pluginId) := by
  constructor
  · intro id entry found
    exact held.valid id entry (get_of_unregister found)
  · intro id
    rw [get_unregister]
    simp only [PluginRegistry.unregister]
    split
    next absent =>
      split
      next same =>
        rw [held.pongs, same, absent]
      · exact held.pongs id
    · simp only [DashMap.get_erase]
      split
      · rfl
      · exact held.pongs id

theorem Registered.operation (done : operation registry call = .ok later) (held : Registered registry) :
    Registered later := by
  cases call with
  | registerWithDevice => exact held.insert done
  | registerDevice => exact held.insert done
  | unregister pluginId =>
    cases done
    exact held.unregister pluginId

/-- After any sequence of calls the two identity maps are inverse to each other,
every entry is stored under its own, valid id, and pong times are kept for just
the registered ids. A call that fails changes no map. -/
theorem registry_maps_consistent (maps : RegistryMaps) (run : Run RegistryMaps.step unguarded {} maps) :
    (∀ conn id, maps.byConnId.get conn = some id ↔
      ∃ entry, maps.byPluginId.get id = some entry ∧ entry.connId = conn) ∧
    (∀ id entry, maps.byPluginId.get id = some entry → entry.pluginId = id ∧ validatePluginId id = .ok ()) ∧
    (∀ id, (maps.pongTimes.get id).isSome = (maps.byPluginId.get id).isSome) ∧
    ∀ call error, (RegistryCall.run call maps).1 = .error error → (RegistryCall.run call maps).2 = maps := by
  obtain ⟨registry, rfl, held⟩ := run_registry registered_empty (fun _ _ _ => Registered.operation) run
  refine ⟨?_, ?_, held.pongs, fun _ _ => run_failed⟩
  · intro conn id
    constructor
    · exact registry.plugins.backed conn id
    · intro stored
      obtain ⟨entry, found, rfl⟩ := stored
      exact (registry.plugins.own id entry found).2
  · intro id entry found
    exact ⟨(registry.plugins.own id entry found).1, held.valid id entry found⟩

end Sequences

def offers (id : String) (tx : Sender) (actions : List String) : RegistryCall :=
  .registerWithDevice { instant := 5 } id tx.conn { actions := actions } tx rfl {}

/-- `notes` registers on connection 1, which then asks for a second id; a device
registers on connection 2. -/
def notesCalls : List RegistryCall := [
  offers "notes" { conn := 1 } ["show", "show"],
  offers "tv" { conn := 1 } ["show"],
  .registerDevice { instant := 7 } "tv" 2 ["show"] {} { conn := 2 } rfl {}]

def notesMaps : RegistryMaps := (exec RegistryMaps.step unguarded {} notesCalls).get (by decide +kernel)

theorem registry_maps_consistent_notes :
    notesMaps.byConnId.get 1 = some "notes" ∧ notesMaps.byConnId.get 2 = some "tv" ∧
      notesMaps.byPluginId.keys.length = 2 ∧ (notesMaps.pongTimes.get "tv").isSome = true ∧
      validatePluginId "tv" = .ok () := by
  have run : Run RegistryMaps.step unguarded {} notesMaps := exec_get_run (by decide +kernel)
  obtain ⟨_, stored, pongs, _⟩ := registry_maps_consistent notesMaps run
  have held : (notesMaps.byPluginId.get "tv").isSome = true := by decide +kernel
  obtain ⟨entry, found⟩ := Option.isSome_iff_exists.mp held
  exact ⟨by decide +kernel, by decide +kernel, by decide +kernel, (pongs "tv").trans held,
    (stored "tv" entry found).2⟩

end Vynkor.Proofs
