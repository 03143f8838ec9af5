import Vynkor.Loader

/-! The sort of the loader on its own, for any list of requirements. What it returns is
the order that Kahn's algorithm finds, or the plugins that this order leaves out. -/

namespace Vynkor.Proofs
open PluginLoader

section Sorting
variable {defs : List PluginDef} {resolved : Resolved} {order : List String} {fuel : Nat} {id : String}

theorem mem_requires {required} :
    required ∈ (resolved.graph defs).requires id ↔
      required ∈ (resolved.deps.get id).getD [] ∧ required ∉ resolved.refused := by
  simp [Resolved.graph]

theorem nodup_nodes (distinct : (defs.map PluginDef.id).Nodup) : (resolved.graph defs).nodes.Nodup :=
  distinct.filter _

/-- One round for each plugin is enough. -/
theorem topoSort_sorted (resolved : Resolved) (distinct : (defs.map PluginDef.id).Nodup) (enough : defs.length ≤ fuel) :
    ∃ order, Kahn.Sorted (resolved.graph defs) order ∧ topoSort fuel defs resolved =
      some (if order.length < (resolved.graph defs).nodes.length then
        .error ((resolved.graph defs).nodes.filter (· ∉ order)) else .ok order) := by
  have fewer : (resolved.graph defs).nodes.length ≤ fuel :=
    Nat.le_trans (List.length_filter_le _ _) (by simpa using enough)
  obtain ⟨order, placed⟩ := Kahn.sort_returns (nodup_nodes distinct) fewer
  exact ⟨order, Kahn.sort_sorted (nodup_nodes distinct) placed, Option.map_eq_some_iff.mpr ⟨order, placed, rfl⟩⟩

theorem not_short_iff (sorted : Kahn.Sorted (resolved.graph defs) order) (distinct : (defs.map PluginDef.id).Nodup) :
    ¬order.length < (resolved.graph defs).nodes.length ↔ ∀ id ∈ (resolved.graph defs).nodes, id ∈ order := by
  have inside : order.Subperm (resolved.graph defs).nodes := List.subperm_of_subset sorted.distinct sorted.members
  constructor
  · intro long id member
    exact (inside.perm_of_length_le (Nat.not_lt.mp long)).mem_iff.mpr member
  · intro complete
    exact Nat.not_lt.mpr (List.subperm_of_subset (nodup_nodes distinct) complete).length_le

end Sorting

/-- The sort succeeds just if no plugin requires itself by way of others. Its order has
every plugin that is not refused, after those of its requirements that are not refused.
Otherwise it returns the plugins that are on a cycle or require one. -/
theorem topo_sort_correct (fuel : Nat) (defs : List PluginDef) (resolved : Resolved)
    (distinct : (defs.map PluginDef.id).Nodup)
    (targets : ∀ id required, resolved.deps.get id = some required → ∀ target ∈ required, target ∈ defs.map PluginDef.id)
    (enough : defs.length ≤ fuel) :
    ∃ sorted, topoSort fuel defs resolved = some sorted ∧
      ((∃ order, sorted = .ok order) ↔ Kahn.Acyclic (resolved.graph defs)) ∧
      (∀ order, sorted = .ok order →
        order.Perm ((defs.map PluginDef.id).filter (· ∉ resolved.refused)) ∧
        ∀ before id after, order = before ++ id :: after →
          ∀ required ∈ (resolved.deps.get id).getD [], required ∉ resolved.refused → required ∈ before) ∧
      ∀ left, sorted = .error left → left.Nodup ∧
        ∀ id, id ∈ left ↔ id ∈ (defs.map PluginDef.id).filter (· ∉ resolved.refused) ∧
          ∃ origin, Relation.TransGen (Kahn.Needs (resolved.graph defs)) origin origin ∧
            Relation.ReflTransGen (Kahn.Needs (resolved.graph defs)) origin id := by
  have closed : ∀ id ∈ (resolved.graph defs).nodes, ∀ required ∈ (resolved.graph defs).requires id,
      required ∈ (resolved.graph defs).nodes := by
    intro id _ required needed
    obtain ⟨listed, kept⟩ := mem_requires.mp needed
    cases found : resolved.deps.get id with
    | none => simp [found] at listed
    | some all =>
      simp only [found, Option.getD_some] at listed
      exact List.mem_filter.mpr ⟨targets id all found required listed, by simpa using kept⟩
  obtain ⟨order, sorted, returned⟩ := topoSort_sorted resolved distinct enough
  have complete := (not_short_iff sorted distinct).trans (sorted.complete_iff closed)
  refine ⟨_, returned, ?_, ?_, ?_⟩
  · rw [← complete]
    split <;> simp_all
  · intro other same
    split at same
    · cases same
    next long =>
      cases same
      refine ⟨?_, ?_⟩
      · exact (List.subperm_of_subset sorted.distinct sorted.members).perm_of_length_le (Nat.not_lt.mp long)
      · intro before id after split required listed kept
        exact sorted.ordered before id after split required (mem_requires.mpr ⟨listed, kept⟩)
  · intro left same
    split at same
    · cases same
      refine ⟨(nodup_nodes distinct).filter _, ?_⟩
      intro id
      rw [List.mem_filter, decide_eq_true_eq]
      exact and_congr_right fun member => sorted.missing_iff closed member
    · cases same

/-- `agent` requires the store twice and a plugin that is refused, and `log` requires
`ui`, which requires the shell. -/
def bootDefs : List PluginDef :=
  [{ id := "agent" }, { id := "store" }, { id := "ui" }, { id := "shell" }, { id := "log" }, { id := "radio" }]

def bootDeps : DashMap String (List String) :=
  (((∅ : DashMap String (List String)).insert "log" ["ui"]).insert "ui" ["shell"]).insert "agent"
    ["store", "radio", "store"]

def bootRefused : List String := ["radio"]

def loopDeps : DashMap String (List String) := bootDeps.insert "shell" ["ui"]

theorem targets_of_entries {deps : DashMap String (List String)} {ids : List String}
    (all : ∀ entry ∈ deps.entries, ∀ target ∈ entry.2, target ∈ ids) (id : String) (required : List String)
    (found : deps.get id = some required) : ∀ target ∈ required, target ∈ ids :=
  all ⟨id, required⟩ ((DashMap.mem_entries deps id required).mpr found)

theorem topo_sort_correct_boot :
    topoSort 6 bootDefs { deps := bootDeps, refused := bootRefused } =
      some (.ok ["store", "shell", "agent", "ui", "log"]) ∧
    Kahn.Acyclic (Resolved.graph { deps := bootDeps, refused := bootRefused } bootDefs) ∧
    topoSort 6 bootDefs { deps := loopDeps, refused := bootRefused } = some (.error ["ui", "shell", "log"]) ∧
    ¬Kahn.Acyclic (Resolved.graph { deps := loopDeps, refused := bootRefused } bootDefs) := by
  have ordered : topoSort 6 bootDefs { deps := bootDeps, refused := bootRefused } =
      some (.ok ["store", "shell", "agent", "ui", "log"]) := by decide +kernel
  have refused : topoSort 6 bootDefs { deps := loopDeps, refused := bootRefused } =
      some (.error ["ui", "shell", "log"]) := by decide +kernel
  obtain ⟨first, returned, found, _⟩ := topo_sort_correct 6 bootDefs { deps := bootDeps, refused := bootRefused }
    (by decide) (targets_of_entries (by decide +kernel)) (by decide)
  obtain ⟨second, left, missing, _⟩ := topo_sort_correct 6 bootDefs { deps := loopDeps, refused := bootRefused }
    (by decide) (targets_of_entries (by decide +kernel)) (by decide)
  obtain rfl := Option.some.inj (ordered.symm.trans returned)
  obtain rfl := Option.some.inj (refused.symm.trans left)
  refine ⟨ordered, found.mp ⟨_, rfl⟩, refused, fun acyclic => ?_⟩
  obtain ⟨order, other⟩ := missing.mpr acyclic
  cases other

end Vynkor.Proofs
