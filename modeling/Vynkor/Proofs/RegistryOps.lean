import Vynkor.Data.Method
import Vynkor.Proofs.RouterEffects

/-! What the registry operations leave of the identity table, the requirements
and the pending actions. -/

namespace Vynkor.Proofs
open RouterState

section Entries
variable {registry updated : PluginRegistry} {now : Moment} {entry : PluginEntry} {details : DeviceMeta}
  {capabilities : List String} {id pluginId : String} {register : PluginRegister}

/-- A registration that succeeds adds its entry to a free id on a free connection
and leaves requirements and pending actions alone. -/
structure Inserted (registry updated : PluginRegistry) (entry : PluginEntry) : Prop where
  freeConn : registry.getByConnId entry.connId = none
  freeId : registry.get entry.pluginId = none
  get : ∀ id, updated.get id = if id = entry.pluginId then some entry else registry.get id
  pending : updated.pendingActions = registry.pendingActions
  requirements : updated.actionRequirements = registry.actionRequirements

theorem Inserted.keeps (inserted : Inserted registry updated entry) {old}
    (found : registry.get id = some old) : updated.get id = some old := by
  rw [inserted.get, if_neg, found]
  intro same
  rw [same, inserted.freeId] at found
  cases found

theorem Inserted.found (inserted : Inserted registry updated entry) {other}
    (found : updated.get id = some other) : registry.get id = some other ∨ id = entry.pluginId ∧ other = entry := by
  rw [inserted.get] at found
  split at found
  next same => exact .inr ⟨same, (Option.some.inj found).symm⟩
  · exact .inl found

section
variable (done : registry.insertEntry now entry details capabilities = .ok updated)
include done

theorem insertEntry_some : validatePluginId entry.pluginId = .ok () ∧ ∃ freeConn freeId, updated = { registry with
      plugins := registry.plugins.insert entry freeConn freeId
      actions := entry.manifest.actions.foldl (fun table action => table.indexAction action entry.pluginId)
        registry.actions
      pongTimes := registry.pongTimes.insert entry.pluginId now.instant
      devices := upsertDevice registry.devices entry.deviceId details capabilities now.unixMillis } := by
  simp only [PluginRegistry.insertEntry] at done
  split at done
  · cases done
  next valid =>
    split at done
    next freeConn =>
      split at done
      next freeId =>
        cases done
        exact ⟨valid, freeConn, freeId, rfl⟩
      · cases done
    · cases done

theorem insertEntry_ok : Inserted registry updated entry := by
  obtain ⟨_, freeConn, freeId, rfl⟩ := insertEntry_some done
  refine ⟨?_, freeId, ?_, rfl, rfl⟩
  · simp only [PluginRegistry.getByConnId, freeConn]
  · intro id
    exact DashMap.get_insert _ _ _ _

theorem insertEntry_devices :
    updated.devices = upsertDevice registry.devices entry.deviceId details capabilities now.unixMillis := by
  obtain ⟨_, _, _, rfl⟩ := insertEntry_some done
  rfl

end

structure ValidId (id : String) : Prop where
  short : id.utf8ByteSize ≤ 32
  plain : ∀ char ∈ id.toList, (char.isAlphanum || char == '-' || char == '_' || char == '.') = true
  unreserved : id ≠ "kernel" ∧ id ≠ "*"

theorem validatePluginId_ok (valid : validatePluginId id = .ok ()) : ValidId id := by
  simp only [validatePluginId] at valid
  split at valid
  · cases valid
  next shaped =>
    simp only [validateIdentifier, Method.guard_eq_ok, Bool.not_eq_true', Bool.not_eq_false] at shaped
    obtain ⟨-, short, -, plain, -⟩ := shaped
    exact ⟨by omega, List.all_eq_true.mp plain, not_or.mp (Method.guard_eq_ok.mp valid).1⟩

theorem insertEntry_valid (done : registry.insertEntry now entry details capabilities = .ok updated) :
    ValidId entry.pluginId :=
  validatePluginId_ok (insertEntry_some done).1

theorem muxDevice_named (mux : register.isMuxDevice = true) :
    register.pluginId = register.deviceId := by
  simp only [PluginRegister.isMuxDevice, Bool.decide_and, Bool.and_eq_true, decide_eq_true_eq] at mux
  exact mux.2.2

theorem registerPlugin_ok {β : Type} {msg : IncomingMessage β} {st : RouterState β}
    {manifest : PluginManifest} (done : st.registerPlugin now msg register manifest = .ok updated) :
    ∃ entry, entry.writeTx = msg.writeTx ∧ entry.pluginId = register.pluginId ∧ Inserted st.registry updated entry := by
  simp only [registerPlugin] at done
  split at done
  next mux =>
    exact ⟨_, rfl, (muxDevice_named mux).symm, insertEntry_ok done⟩
  · exact ⟨_, rfl, rfl, insertEntry_ok done⟩

theorem conn_of_channel {β : Type} {msg : IncomingMessage β} (channel : entry.writeTx = msg.writeTx) :
    entry.connId = msg.connId := by
  rw [← entry.owned, channel, msg.owned]

theorem get_unregister (registry : PluginRegistry) (pluginId id : String) :
    (registry.unregister pluginId).get id = if id = pluginId then none else registry.get id := by
  simp only [PluginRegistry.unregister]
  split
  next absent =>
    split
    next same =>
      subst same
      exact absent
    · rfl
  next entry found => exact DashMap.get_erase _ _ _

theorem get_of_unregister {pluginId} (found : (registry.unregister pluginId).get id = some entry) :
    registry.get id = some entry := by
  rw [get_unregister] at found
  split at found
  · cases found
  · exact found

theorem unregister_pending (registry : PluginRegistry) (pluginId : String) :
    (registry.unregister pluginId).pendingActions = registry.pendingActions := by
  simp only [PluginRegistry.unregister]
  split <;> rfl

theorem unregister_requirement (registry : PluginRegistry) (pluginId provider action : String)
    (kept : provider = pluginId → registry.get pluginId = none) :
    (registry.unregister pluginId).actionRequirement provider action = registry.actionRequirement provider action := by
  simp only [PluginRegistry.unregister]
  split
  · rfl
  next entry found =>
    have different : provider ≠ pluginId := by
      intro same
      rw [kept same] at found
      cases found
    simp only [PluginRegistry.actionRequirement, DashMap.get_erase, if_neg different]

end Entries

section Updates
variable {β : Type} {ctx : Context β} {now : Moment} {msg : IncomingMessage β} {st : RouterState β}
  {registry : PluginRegistry} {id : String} {entry : PluginEntry}

section
variable (update : Update ctx now msg st registry)
include update

theorem Update.entries : (∀ id, registry.get id = st.registry.get id) ∨
      ∃ entry, entry.writeTx = msg.writeTx ∧ Inserted st.registry registry entry := by
  cases update with
  | registered done =>
    obtain ⟨entry, channel, _, inserted⟩ := registerPlugin_ok done
    exact .inr ⟨entry, channel, inserted⟩
  | same | ponged | routed | direct | resolved | touched | aborted | closed => exact .inl fun _ => rfl

theorem Update.keeps (found : st.registry.get id = some entry) : registry.get id = some entry := by
  rcases update.entries with same | ⟨added, _, inserted⟩
  · rw [same, found]
  · exact inserted.keeps found

theorem Update.channel (found : registry.get id = some entry) :
    st.registry.get id = some entry ∨ entry.writeTx = msg.writeTx := by
  rcases update.entries with same | ⟨added, channel, inserted⟩
  · exact .inl (by rw [← same, found])
  · rcases inserted.found found with old | ⟨_, rfl⟩
    · exact .inl old
    · exact .inr channel

theorem Update.origin (found : registry.get id = some entry) :
    st.registry.get id = some entry ∨ entry.connId = msg.connId :=
  (update.channel found).imp_right conn_of_channel

theorem Update.requirements : registry.actionRequirements = st.registry.actionRequirements := by
  cases update with
  | registered done =>
    obtain ⟨_, _, _, inserted⟩ := registerPlugin_ok done
    exact inserted.requirements
  | same | ponged | routed | direct | resolved | touched | aborted | closed => rfl

end

end Updates
end Vynkor.Proofs
