import Vynkor.Config
import Vynkor.Data.OsText

/-! The configuration as it is read from its file and from the files of the drop-in
directory. Reading YAML is a parameter. -/

namespace Vynkor
open UnixPath

/-- A file of the drop-in directory, and what reading it gives. -/
structure DropIn where
  path : Path
  content : Except String String

structure Yaml where
  config : String → Except String Config
  pluginDef : String → Except String PluginDef

namespace DropIn

def isYaml (file : DropIn) : Bool :=
  extension file.path = some (utf8 "yaml") || extension file.path = some (utf8 "yml")

def ordered (files : List DropIn) : List DropIn :=
  (files.filter isYaml).insertionSort fun first second => first.path ≤ second.path

end DropIn

namespace Config
variable (yaml : Yaml) (config : Config)

/-- Adds the plugin of one file. No other file and no inline entry may have its id. -/
def mergeDropin (file : DropIn) : Except String Config := do
  let content ← file.content
  let plugin ← (yaml.pluginDef content).mapError fun error => OsText.lossy file.path ++ ": " ++ error
  if config.plugins.any fun other => other.id == plugin.id then
    throw ("duplicate plugin id '" ++ plugin.id ++ "': defined both in " ++ OsText.lossy file.path ++
      " and in an inline `plugins:` entry or another drop-in file")
  else pure { config with plugins := config.plugins ++ [plugin] }

/-- The listing of the drop-in directory, which may fail; `none` where there is none. -/
abbrev Listing := Option (Except String (List DropIn))

def mergePluginDropins (dir : Listing) : Except String Config :=
  match dir with
  | none => .ok config
  | some listed => do (DropIn.ordered (← listed)).foldlM (mergeDropin yaml) config

/-- Zero stands for the default. -/
def clamp (value default : Nat) : Nat := if value = 0 then default else value

def clampInvalidNumerics : Config :=
  let defaults : Config := {}
  { config with
    routerChannelCapacity := clamp config.routerChannelCapacity defaults.routerChannelCapacity
    maxConnections := clamp config.maxConnections defaults.maxConnections
    watchdogIntervalSecs := clamp config.watchdogIntervalSecs defaults.watchdogIntervalSecs
    watchdogTimeoutSecs := clamp config.watchdogTimeoutSecs defaults.watchdogTimeoutSecs
    maxWsConnections := clamp config.maxWsConnections defaults.maxWsConnections
    maxArchiveBytes := clamp config.maxArchiveBytes defaults.maxArchiveBytes }

def loadConfig (content : Except String String) (dir : Listing) : Except String Config := do
  let config ← yaml.config (← content)
  let config ← config.mergePluginDropins yaml dir
  return config.clampInvalidNumerics

/-- What the operator allows each plugin. A later definition replaces an earlier one of
the same id. -/
def permissionAllowlist : DashMap String (List String) :=
  config.plugins.foldl (fun allowed plugin => allowed.insert plugin.id plugin.permissions) ∅

end Config
end Vynkor
