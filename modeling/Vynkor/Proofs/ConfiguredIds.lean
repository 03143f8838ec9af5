import Vynkor.ConfigFile
import Vynkor.Proofs.TopoSort

/-! The ids of the plugins in a configuration. Merging a drop-in refuses an id that is
taken already, so only the inline list can bring one twice. -/

namespace Vynkor.Proofs
open Config PluginLoader

section Merge
variable {yaml : Yaml} {config next : Config} {file : DropIn}

def ids (config : Config) : List String := config.plugins.map PluginDef.id

theorem mergeDropin_ok (merged : config.mergeDropin yaml file = .ok next) :
    ∃ plugin, plugin.id ∉ ids config ∧ next = { config with plugins := config.plugins ++ [plugin] } := by
  simp only [mergeDropin, bind, Except.bind] at merged
  split at merged
  · cases merged
  next content read =>
    split at merged
    · cases merged
    next plugin parsed =>
      split at merged
      · cases merged
      next unused =>
        cases merged
        refine ⟨plugin, ?_, rfl⟩
        intro member
        obtain ⟨other, listed, same⟩ := List.mem_map.mp member
        exact unused (List.any_eq_true.mpr ⟨other, listed, beq_iff_eq.mpr same⟩)

theorem mergeDropin_distinct (merged : config.mergeDropin yaml file = .ok next) :
    (ids next).Nodup ↔ (ids config).Nodup := by
  obtain ⟨plugin, unused, rfl⟩ := mergeDropin_ok merged
  rw [ids, List.map_append, List.nodup_append]
  refine ⟨fun all => all.1, fun distinct => ⟨distinct, List.nodup_singleton _, ?_⟩⟩
  rintro id member other last rfl
  exact unused (List.mem_singleton.mp last ▸ member)

theorem mergeAll_distinct (files : List DropIn) (merged : files.foldlM (mergeDropin yaml) config = .ok next) :
    (ids next).Nodup ↔ (ids config).Nodup := by
  induction files generalizing config with
  | nil =>
    cases merged
    rfl
  | cons file rest ih =>
    rw [List.foldlM_cons] at merged
    simp only [bind, Except.bind] at merged
    split at merged
    · cases merged
    next middle added => exact (ih merged).trans (mergeDropin_distinct added)

theorem mergePluginDropins_distinct {dir : Listing} (merged : config.mergePluginDropins yaml dir = .ok next) :
    (ids next).Nodup ↔ (ids config).Nodup := by
  simp only [mergePluginDropins, bind, Except.bind] at merged
  split at merged
  · cases merged
    rfl
  · split at merged
    · cases merged
    next files listed => exact mergeAll_distinct _ merged

theorem loadConfig_distinct {content dir text inline} (read : content = .ok text)
    (parsed : yaml.config text = .ok inline) (loaded : loadConfig yaml content dir = .ok config) :
    (ids config).Nodup ↔ (ids inline).Nodup := by
  subst read
  simp only [loadConfig, bind, Except.bind, parsed] at loaded
  split at loaded
  · cases loaded
  next merged done =>
    cases loaded
    have kept : (ids merged).Nodup ↔ (ids inline).Nodup := mergePluginDropins_distinct done
    exact kept

end Merge

section Lookup
variable {plugins : List PluginDef} {plugin : PluginDef}

theorem get_permissionAllowlist {config : Config} (distinct : (ids config).Nodup) (member : plugin ∈ config.plugins) :
    config.permissionAllowlist.get plugin.id = some plugin.permissions := by
  rw [permissionAllowlist]
  rw [ids] at distinct
  generalize config.plugins = plugins at distinct member ⊢
  induction plugins using List.reverseRecOn with
  | nil => cases member
  | append_singleton rest last ih =>
    simp only [List.foldl_append, List.foldl_cons, List.foldl_nil, DashMap.get_insert]
    simp only [List.map_append, List.map_cons, List.map_nil] at distinct
    obtain ⟨before, _, apart⟩ := List.nodup_append.mp distinct
    rcases List.mem_append.mp member with earlier | final
    · have other : plugin.id ≠ last.id := apart _ (List.mem_map_of_mem earlier) _ (List.mem_singleton_self _)
      rw [if_neg other]
      exact ih before earlier
    · cases List.mem_singleton.mp final
      rw [if_pos rfl]

theorem find_own (distinct : (plugins.map PluginDef.id).Nodup) (member : plugin ∈ plugins) :
    plugins.find? (fun other => other.id = plugin.id) = some plugin := by
  induction plugins with
  | nil => cases member
  | cons first rest ih =>
    obtain ⟨absent, distinct⟩ := List.nodup_cons.mp distinct
    rcases List.mem_cons.mp member with rfl | later
    · simp
    · have other : first.id ≠ plugin.id := fun same => absent (same ▸ List.mem_map_of_mem later)
      rw [List.find?_cons_of_neg (by simpa using other)]
      exact ih distinct later

end Lookup

/-- A configuration that loads has an id twice just if the inline list has. Otherwise
every definition has its own entry in the allowlist and is found under its id, and the
sort of the loader names every plugin once or reports some that are left. -/
theorem loaded_ids_distinct (yaml : Yaml) (text : String) (dir : Listing) (inline config : Config)
    (parsed : yaml.config text = .ok inline) (loaded : loadConfig yaml (.ok text) dir = .ok config) :
    ((config.plugins.map PluginDef.id).Nodup ↔ (inline.plugins.map PluginDef.id).Nodup) ∧
      ((inline.plugins.map PluginDef.id).Nodup →
        (∀ plugin ∈ config.plugins, config.permissionAllowlist.get plugin.id = some plugin.permissions ∧
          config.plugins.find? (fun other => other.id = plugin.id) = some plugin) ∧
        ∀ resolved fuel, config.plugins.length ≤ fuel → ∃ sorted, topoSort fuel config.plugins resolved = some sorted ∧
          (∀ order, sorted = .ok order → order.Nodup) ∧ ∀ left, sorted = .error left → left ≠ []) := by
  have same := loadConfig_distinct rfl parsed loaded
  refine ⟨same, fun distinct => ?_⟩
  have unique : (config.plugins.map PluginDef.id).Nodup := same.mpr distinct
  refine ⟨fun plugin member => ⟨get_permissionAllowlist unique member, find_own unique member⟩, ?_⟩
  intro resolved fuel enough
  obtain ⟨order, sorted, returned⟩ := topoSort_sorted resolved unique enough
  refine ⟨_, returned, ?_, ?_⟩
  · intro other same
    split at same
    · cases same
    · cases same
      exact sorted.distinct
  · intro left same empty
    split at same
    next short =>
      cases same
      refine (not_short_iff sorted unique).mpr ?_ short
      intro id member
      by_contra missing
      have listed : id ∈ (resolved.graph config.plugins).nodes.filter (· ∉ order) :=
        List.mem_filter.mpr ⟨member, by simpa using missing⟩
      rw [empty] at listed
      cases listed
    · cases same

def listing (inline : List PluginDef) : Yaml where
  config _ := .ok { plugins := inline }
  pluginDef text := .ok { id := text }

def dropIn (name id : String) : DropIn :=
  { path := UnixPath.join (utf8 "/etc/vyn/plugins.d") (utf8 name), content := .ok id }

/-- Only the first two are read, the second of them first. -/
def officeFiles : List DropIn :=
  [dropIn "notes.yml" "notes", dropIn "clock.yaml" "clock", dropIn "lamp.yaml.disabled" "clock", dropIn ".yaml" "clock"]

def officeStore : PluginDef := { id := "store", permissions := ["storage"] }

def officeConfig : Config := { plugins := [officeStore, { id := "clock" }, { id := "notes" }] }

theorem loaded_ids_distinct_office :
    loadConfig (listing [officeStore]) (.ok "") (some (.ok officeFiles)) = .ok officeConfig ∧
      officeConfig.permissionAllowlist.get "store" = some ["storage"] := by
  have loaded : loadConfig (listing [officeStore]) (.ok "") (some (.ok officeFiles)) = .ok officeConfig := by rfl
  obtain ⟨_, named⟩ := loaded_ids_distinct (listing [officeStore]) "" (some (.ok officeFiles)) _ officeConfig rfl loaded
  exact ⟨loaded, ((named (by decide)).1 officeStore (by simp [officeConfig])).1⟩

def twins : List PluginDef :=
  [{ id := "store" }, { id := "ui", permissions := ["storage"] }, { id := "ui", permissions := ["network"] }]

/-- The configuration loads. The allowlist has the permissions of the second only, and if
the user interface requires the store, the loader reports a cycle without a member. -/
theorem inline_twins_load : ∃ config, loadConfig (listing twins) (.ok "") none = .ok config ∧
    ¬(config.plugins.map PluginDef.id).Nodup ∧ config.permissionAllowlist.get "ui" = some ["network"] ∧
    topoSort 3 config.plugins { deps := (∅ : DashMap String (List String)).insert "ui" ["store"], refused := [] } =
      some (.error []) :=
  ⟨_, rfl, by decide +kernel, by decide +kernel, by decide +kernel⟩

end Vynkor.Proofs
