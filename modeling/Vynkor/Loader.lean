import Vynkor.Data.Kahn
import Vynkor.Data.UnixPath
import Vynkor.EventBus
import Vynkor.Permissions

/-! The loader at boot: what it records, whom it refuses and in which order it starts
the rest. Reading and validating a manifest and starting a process are parameters;
their results for each configured plugin are what the loops below see. -/

namespace Vynkor

/-- An action a manifest declares, with the permission it asks for. -/
structure ActionSpec where
  name : String
  permission : Option String := none

structure InstallManifest where
  actions : Option (List ActionSpec) := none
  events : Option (List String) := none
  requires : List String := []

structure PluginDef where
  id : String
  binary : String := ""
  restart : String := "on-failure"
  maxRestarts : UInt32 := 5
  args : List String := []
  env : List String := []
  sandbox : Bool := false
  graceSeconds : UInt32 := 0
  /-- Empty allows what the manifest declares. -/
  permissions : List String := []
  maxFsAccess : Option String := none
  readonlyPaths : List UnixPath.Path := []
  writablePaths : List UnixPath.Path := []

namespace PluginLoader

/-- Actions whose permission names a known type; a later entry for one action
replaces the earlier one. -/
def requirements (specs : List ActionSpec) : DashMap String PermissionType :=
  specs.foldl (fun table spec =>
    match spec.permission.bind resolvePermission with
    | some permission => table.insert spec.name permission
    | none => table) ∅

/-- One pass of the validation loop of `load_all`. -/
def recordRequirements (registry : PluginRegistry) (plugin : PluginDef)
    (validated : Except VynkorError (Option InstallManifest)) : PluginRegistry :=
  match validated with
  | .ok (some manifest) =>
    let table := requirements (manifest.actions.getD [])
    if table.entries = [] then registry else registry.setActionRequirements plugin.id table
  | _ => registry

/-- Requirements are recorded for all plugins before the first one is spawned. -/
def recordAll (validate : PluginDef → Except VynkorError (Option InstallManifest)) (defs : List PluginDef)
    (registry : PluginRegistry) : PluginRegistry :=
  defs.foldl (fun registry plugin => recordRequirements registry plugin (validate plugin)) registry

structure Validated where
  manifests : DashMap String (Option InstallManifest) := ∅
  refused : List String := []

def validateNext (validate : PluginDef → Except VynkorError (Option InstallManifest)) (validated : Validated)
    (plugin : PluginDef) : Validated :=
  match validate plugin with
  | .ok manifest => { validated with manifests := validated.manifests.insert plugin.id manifest }
  | .error _ => { validated with refused := validated.refused.insert plugin.id }

def validateAll (validate : PluginDef → Except VynkorError (Option InstallManifest)) (defs : List PluginDef) :
    Validated :=
  defs.foldl (validateNext validate) {}

/-- No manifest means no requirements. -/
def Validated.requires (validated : Validated) (id : String) : List String :=
  match validated.manifests.get id with
  | some (some manifest) => manifest.requires
  | _ => []

structure Resolved where
  deps : DashMap String (List String) := ∅
  refused : List String

/-- A plugin with a requirement that is not configured is refused. One that requires a
refused plugin is not. -/
def resolveNext (ids : List String) (validated : Validated) (resolved : Resolved) (plugin : PluginDef) : Resolved :=
  let requires := validated.requires plugin.id
  if plugin.id ∈ resolved.refused then resolved
  else if requires.all (· ∈ ids) then { resolved with deps := resolved.deps.insert plugin.id requires }
  else { resolved with refused := resolved.refused.insert plugin.id }

def resolve (defs : List PluginDef) (validated : Validated) : Resolved :=
  defs.foldl (resolveNext (defs.map PluginDef.id) validated) { refused := validated.refused }

/-- The plugins that are not refused. Requirements on refused plugins are dropped. -/
def Resolved.graph (resolved : Resolved) (defs : List PluginDef) : Kahn.Graph String where
  nodes := (defs.map PluginDef.id).filter (· ∉ resolved.refused)
  requires id := ((resolved.deps.get id).getD []).filter (· ∉ resolved.refused)

/-- The order of the plugins, or those that take part in a cycle or depend on one. -/
def topoSort (fuel : Nat) (defs : List PluginDef) (resolved : Resolved) :
    Option (Except (List String) (List String)) :=
  let graph := resolved.graph defs
  (graph.sort fuel).map fun order =>
    if order.length < graph.nodes.length then .error (graph.nodes.filter (· ∉ order)) else .ok order

/-- After a cycle the plugins that are left are started in the order of the configuration. -/
def spawnOrder (defs : List PluginDef) (resolved : Resolved) :
    Except (List String) (List String) → List String × List String
  | .ok order => (order, resolved.refused)
  | .error cycle =>
    let refused := resolved.refused ++ cycle
    ((defs.map PluginDef.id).filter (· ∉ refused), refused)

structure Loaded where
  bus : Option EventBus
  /-- The plugins in the order in which they were started, and whether that succeeded. -/
  starts : List (String × Bool) := []

section Spawn
variable (start : PluginDef → Bool) (defs : List PluginDef) (validated : Validated) (refused : List String)

/-- The plugin that the loop starts for an id, if it starts one. -/
def toStart (id : String) : Option PluginDef :=
  (defs.find? fun plugin => plugin.id = id).filter fun _ => id ∉ refused

def declaredEvents (id : String) : List String :=
  match validated.manifests.get id with
  | some (some manifest) => manifest.events.getD []
  | _ => []

/-- A plugin that was started is subscribed to the events its manifest declares. -/
def spawnNext (loaded : Loaded) (id : String) : Loaded :=
  match toStart defs refused id with
  | none => loaded
  | some plugin => {
      bus := if start plugin ∧ declaredEvents validated plugin.id ≠ [] then
          loaded.bus.map fun bus => bus.subscribe plugin.id (declaredEvents validated plugin.id)
        else loaded.bus
      starts := loaded.starts ++ [(plugin.id, start plugin)] }

end Spawn

/-- `none` while the sort has not come to an end. -/
def loadAll (fuel : Nat) (validate : PluginDef → Except VynkorError (Option InstallManifest)) (start : PluginDef → Bool)
    (defs : List PluginDef) (registry : PluginRegistry) (bus : Option EventBus) : Option (PluginRegistry × Loaded) :=
  let validated := validateAll validate defs
  let resolved := resolve defs validated
  (topoSort fuel defs resolved).map fun sorted =>
    let (order, refused) := spawnOrder defs resolved sorted
    (recordAll validate defs registry, order.foldl (spawnNext start defs validated refused) { bus })

end PluginLoader
end Vynkor
