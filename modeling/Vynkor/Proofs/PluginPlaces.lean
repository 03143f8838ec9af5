import Vynkor.Proofs.ConfiguredIds
import Vynkor.Spawn

/-! Where the supervisor keeps what belongs to a plugin: its cgroup scope and its data
directory. The name of a scope is made from the id of the plugin, while the directory is
the id itself, read as a path. -/

namespace Vynkor.Proofs
open UnixPath Config PluginLoader

section Directory
variable {dataDir name : Path} {id : String}

/-- The id leads to this name in the directory of all plugins. An absolute one spells out the
whole way. -/
def NamedIn (dataDir : Path) (id : String) (name : Path) : Prop :=
  if isAbsolute (utf8 id) then components (utf8 id) = components (join dataDir (utf8 "plugins")) ++ [.normal name]
  else names (utf8 id) = [.normal name]

theorem components_pluginDataDir_iff : components (pluginDataDir dataDir id) =
    components (join dataDir (utf8 "plugins")) ++ [.normal name] ↔ NamedIn dataDir id name := by
  have last : (join dataDir (utf8 "plugins")).getLast? = some 115 := getLast?_join (by decide +kernel)
  have nonempty : join dataDir (utf8 "plugins") ≠ [] := fun empty => by simp [empty] at last
  rw [NamedIn]
  split
  next absolute => rw [pluginDataDir, join, if_pos absolute]
  next relative =>
    rw [pluginDataDir, components_join nonempty (by simp [last, slash]) (by simpa using relative),
      List.append_cancel_left_eq]

theorem NamedIn.unique {other : Path} (first : NamedIn dataDir id name) (second : NamedIn dataDir id other) :
    name = other := by
  have same := (components_pluginDataDir_iff.mpr first).symm.trans (components_pluginDataDir_iff.mpr second)
  simpa using same

end Directory

end Vynkor.Proofs
