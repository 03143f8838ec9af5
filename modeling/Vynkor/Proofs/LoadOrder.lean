import Vynkor.Proofs.TopoSort

/-! The loader starts a plugin after what it requires, as long as the requirements
have no cycle, none of them is refused and their starts succeed. -/

namespace Vynkor.Proofs
open DashMap PluginLoader

variable {validate : PluginDef → Except VynkorError (Option InstallManifest)} {start : PluginDef → Bool}
  {defs : List PluginDef} {validated : Validated} {refused : List String} {plugin : PluginDef}

section Tables
variable {rest : List PluginDef} {id : String}

/-- A plugin that is not refused has its requirements listed, and all of them are
configured. -/
structure Resolves (ids : List String) (validated : Validated) (resolved : Resolved) (id : String) : Prop where
  deps : resolved.deps.get id = some (validated.requires id)
  configured : ∀ required ∈ validated.requires id, required ∈ ids

variable {resolved : Resolved} {ids : List String}

theorem Resolves.next
    (resolves : Resolves ids validated resolved id) : Resolves ids validated
    (resolveNext ids validated resolved plugin) id := by
  refine ⟨?_, resolves.configured⟩
  simp only [resolveNext]
  split
  · exact resolves.deps
  · split
    · rw [get_insert]
      split
      next same => rw [same]
      · exact resolves.deps
    · exact resolves.deps

theorem Resolves.foldl
    (resolves : Resolves ids validated resolved id) :
    Resolves ids validated (rest.foldl (resolveNext ids validated) resolved) id := by
  induction rest generalizing resolved with
  | nil => exact resolves
  | cons first rest ih => exact ih resolves.next

end Tables

section Order
variable {resolved : Resolved} {order : List String} {fuel : Nat} {id : String}

end Order

end Vynkor.Proofs
