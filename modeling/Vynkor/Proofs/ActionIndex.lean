import Vynkor.Proofs.RegistryCalls

/-! The action index against the plain scan of all manifests. For each action the
two tables represent the set of its declarers; indexing adds one declarer to the
set and unindexing removes one, however often the manifest repeats the name. -/

namespace Vynkor.Proofs
open ActionTable DashMap Execution

/-- How the two tables hold the declarers of one action. -/
inductive Represents (declares : String → Prop) : Option String → Option (List String) → Prop where
  | nobody (unknown : ∀ id, ¬declares id) : Represents declares none none
  | one {only} (same : ∀ id, declares id ↔ id = only) : Represents declares (some only) none
  | several {ids} (distinct : ids.Nodup) (colliding : 2 ≤ ids.length)
      (same : ∀ id, declares id ↔ id ∈ ids) : Represents declares none (some ids)

/-- The tables represent the relation between plugins and the actions they declare. -/
def Indexes (table : ActionTable) (declares : String → String → Prop) : Prop :=
  ∀ action, Represents (fun id => declares id action) (table.index.get action) (table.ambiguous.get action)

section Tables
variable {table : ActionTable} {declares other : String → String → Prop} {action pluginId : String}
  {single : Option String} {colliding : Option (List String)} {name : String}

theorem Indexes.congr (indexes : Indexes table declares) (same : ∀ id action, declares id action ↔ other id action) :
    Indexes table other := by
  have equal : declares = other := by
    funext id action
    exact propext (same id action)
  rw [← equal]
  exact indexes

theorem indexes_empty : Indexes {} fun _ _ => False := by
  intro action
  exact .nobody fun _ => id

theorem indexAction_other (table : ActionTable) (pluginId : String) (different : name ≠ action) :
    (table.indexAction action pluginId).index.get name = table.index.get name ∧
      (table.indexAction action pluginId).ambiguous.get name = table.ambiguous.get name := by
  simp only [indexAction]
  split
  · split
    · exact ⟨rfl, rfl⟩
    · exact ⟨rfl, by rw [get_insert, if_neg different]⟩
  · split
    · split
      · exact ⟨rfl, rfl⟩
      · exact ⟨by rw [get_erase, if_neg different], by rw [get_insert, if_neg different]⟩
    · exact ⟨by rw [get_insert, if_neg different], rfl⟩

theorem indexAction_self (represents : Represents (fun id => declares id action) (table.index.get action)
    (table.ambiguous.get action)) :
    Represents (fun id => declares id action ∨ id = pluginId) ((table.indexAction action pluginId).index.get action)
      ((table.indexAction action pluginId).ambiguous.get action) := by
  generalize first : table.index.get action = single at represents
  generalize second : table.ambiguous.get action = colliding at represents
  simp only [indexAction, first, second]
  cases represents with
  | nobody unknown =>
    simp only [get_insert_self, second]
    exact .one fun id => by simp [unknown]
  | @one only same =>
    by_cases own : only = pluginId
    · simp only [own, if_true, first, second]
      exact .one fun id => by simp [same, own]
    · simp only [own, if_false, get_erase_self, get_insert_self]
      refine .several (by simp [own]) (by simp) fun id => ?_
      simp [same]
  | @several ids distinct many same =>
    by_cases member : pluginId ∈ ids
    · simp only [member, if_true, first, second]
      refine .several distinct many fun id => ?_
      rw [same]
      constructor
      · intro known
        rcases known with known | rfl
        · exact known
        · exact member
      · exact .inl
    · simp only [member, if_false, first, get_insert_self]
      refine .several ?_ (by simp; omega) fun id => by simp [same]
      rw [List.nodup_append]
      refine ⟨distinct, by simp, ?_⟩
      intro id known new only
      rw [List.mem_singleton.mp only]
      intro equal
      exact member (equal ▸ known)

theorem Indexes.indexAction (indexes : Indexes table declares) :
    Indexes (table.indexAction action pluginId) fun id name => declares id name ∨ id = pluginId ∧ name = action := by
  intro name
  by_cases same : name = action
  · subst same
    simpa using indexAction_self (indexes name)
  · obtain ⟨index, ambiguous⟩ := indexAction_other table pluginId same
    rw [index, ambiguous]
    simpa [same] using indexes name

theorem dropIndex_other (table : ActionTable) (pluginId : String) (different : name ≠ action) :
    (table.dropIndex action pluginId).index.get name = table.index.get name ∧
      (table.dropIndex action pluginId).ambiguous.get name = table.ambiguous.get name := by
  simp only [dropIndex]
  split
  · exact ⟨by rw [get_erase, if_neg different], rfl⟩
  · exact ⟨rfl, rfl⟩

theorem unindexAction_other (table : ActionTable) (pluginId : String) (different : name ≠ action) :
    (table.unindexAction action pluginId).index.get name = table.index.get name ∧
      (table.unindexAction action pluginId).ambiguous.get name = table.ambiguous.get name := by
  simp only [unindexAction]
  split
  · split
    · exact ⟨by rw [get_insert, if_neg different], by rw [get_erase, if_neg different]⟩
    · obtain ⟨index, ambiguous⟩ := dropIndex_other
        { table with ambiguous := table.ambiguous.insert action _ } pluginId different
      exact ⟨index, by rw [ambiguous, get_insert, if_neg different]⟩
  · exact dropIndex_other table pluginId different

theorem length_filter_ne {ids : List String} (distinct : ids.Nodup) (pluginId : String) :
    ids.length ≤ (ids.filter (· ≠ pluginId)).length + 1 := by
  have erased : ids.filter (· ≠ pluginId) = ids.erase pluginId := by
    rw [distinct.erase_eq_filter]
    apply List.filter_congr
    intro id _
    by_cases equal : id = pluginId <;> simp [equal]
  rw [erased, List.length_erase]
  split <;> omega

theorem dropIndex_absent (absent : table.index.get action ≠ some pluginId) :
    table.dropIndex action pluginId = table := by
  rw [dropIndex, if_neg absent]

theorem unindexAction_self (represents : Represents (fun id => declares id action) (table.index.get action)
    (table.ambiguous.get action)) :
    Represents (fun id => declares id action ∧ id ≠ pluginId) ((table.unindexAction action pluginId).index.get action)
      ((table.unindexAction action pluginId).ambiguous.get action) := by
  generalize first : table.index.get action = single at represents
  generalize second : table.ambiguous.get action = colliding at represents
  simp only [unindexAction, second]
  cases represents with
  | nobody unknown =>
    rw [dropIndex_absent (by simp [first]), first, second]
    exact .nobody fun id known => unknown id known.1
  | @one only same =>
    by_cases own : only = pluginId
    · rw [dropIndex, if_pos (by rw [first, own]), get_erase_self, second]
      refine .nobody fun id known => known.2 ?_
      rw [(same id).mp known.1, own]
    · rw [dropIndex_absent (by simp [first, own]), first, second]
      refine .one fun id => ?_
      rw [same]
      constructor
      · exact And.left
      · intro equal
        exact ⟨equal, equal ▸ own⟩
  | @several ids distinct many same =>
    have left := length_filter_ne distinct pluginId
    have kept : ∀ id, declares id action ∧ id ≠ pluginId ↔ id ∈ ids.filter (· ≠ pluginId) := by
      intro id
      rw [List.mem_filter, same]
      simp
    have stillDistinct : (ids.filter (· ≠ pluginId)).Nodup := distinct.filter _
    dsimp only
    split
    next only remaining =>
      rw [get_insert_self, get_erase_self]
      refine .one fun id => ?_
      rw [kept, remaining, List.mem_singleton]
    next remaining notSingle =>
      have enough : 2 ≤ (ids.filter (· ≠ pluginId)).length := by
        rcases found : ids.filter (· ≠ pluginId) with _ | ⟨only, _ | ⟨next, rest⟩⟩
        · rw [found] at left
          simp at left
          omega
        · exact absurd found (notSingle only)
        · simp
      rw [dropIndex_absent (by simp [first]), first, get_insert_self]
      exact .several stillDistinct enough kept

theorem Indexes.unindexAction (indexes : Indexes table declares) :
    Indexes (table.unindexAction action pluginId) fun id name => declares id name ∧ ¬(id = pluginId ∧ name = action) := by
  intro name
  by_cases same : name = action
  · subst same
    simpa using unindexAction_self (indexes name)
  · obtain ⟨index, ambiguous⟩ := unindexAction_other table pluginId same
    rw [index, ambiguous]
    simpa [same] using indexes name

theorem Indexes.indexAll (indexes : Indexes table declares) (names : List String) :
    Indexes (names.foldl (fun table name => table.indexAction name pluginId) table)
      fun id name => declares id name ∨ id = pluginId ∧ name ∈ names := by
  induction names generalizing table declares with
  | nil => exact indexes.congr fun id name => by simp
  | cons first rest ih =>
    apply (ih indexes.indexAction).congr
    intro id name
    rw [List.mem_cons]
    tauto

theorem Indexes.unindexAll (indexes : Indexes table declares) (names : List String) :
    Indexes (names.foldl (fun table name => table.unindexAction name pluginId) table)
      fun id name => declares id name ∧ ¬(id = pluginId ∧ name ∈ names) := by
  induction names generalizing table declares with
  | nil => exact indexes.congr fun id name => by simp
  | cons first rest ih =>
    apply (ih indexes.unindexAction).congr
    intro id name
    rw [List.mem_cons]
    tauto

end Tables

section Registry
variable {registry later : PluginRegistry} {call : RegistryCall}

/-- The scan: the plugin is registered and its manifest names the action. -/
def Declares (byPluginId : DashMap String PluginEntry) (id action : String) : Prop :=
  ∃ entry, byPluginId.get id = some entry ∧ action ∈ entry.manifest.actions

def Indexed (registry : PluginRegistry) : Prop := Indexes registry.actions (Declares registry.plugins.byPluginId)

theorem indexed_empty : Indexed {} := by
  apply indexes_empty.congr
  intro id action
  simp [Declares, PluginTable.empty]

theorem Indexed.insert {moment entry details capabilities}
    (indexed : Indexed registry) (done : registry.insertEntry moment entry details capabilities = .ok later) :
    Indexed later := by
  have inserted : Inserted registry later entry := insertEntry_ok done
  have tables : later.actions =
      entry.manifest.actions.foldl (fun table action => table.indexAction action entry.pluginId) registry.actions := by
    obtain ⟨_, _, _, rfl⟩ := insertEntry_some done
    rfl
  rw [Indexed, tables]
  apply (Indexes.indexAll indexed entry.manifest.actions).congr
  intro id action
  have now : later.plugins.byPluginId.get id = _ := inserted.get id
  simp only [Declares, now]
  by_cases own : id = entry.pluginId
  · have free : registry.plugins.byPluginId.get entry.pluginId = none := inserted.freeId
    simp [own, free]
  · simp [own, PluginRegistry.get]

theorem Indexed.unregister (indexed : Indexed registry) (pluginId : String) : Indexed (registry.unregister pluginId) := by
  have now (id : String) : (registry.unregister pluginId).plugins.byPluginId.get id = _ :=
    get_unregister registry pluginId id
  simp only [Indexed]
  cases found : registry.get pluginId with
  | none =>
    have same : registry.unregister pluginId = registry := by simp [PluginRegistry.unregister, found]
    rw [same]
    exact indexed
  | some entry =>
    have tables : (registry.unregister pluginId).actions =
        entry.manifest.actions.foldl (fun table action => table.unindexAction action pluginId) registry.actions := by
      simp [PluginRegistry.unregister, found]
    rw [tables]
    apply (Indexes.unindexAll indexed entry.manifest.actions).congr
    intro id action
    simp only [Declares, now]
    by_cases own : id = pluginId
    · have stored : registry.plugins.byPluginId.get pluginId = some entry := found
      simp [own, stored]
    · simp [own, PluginRegistry.get]

theorem Indexed.operation (done : operation registry call = .ok later) (indexed : Indexed registry) : Indexed later := by
  cases call with
  | registerWithDevice => exact indexed.insert done
  | registerDevice => exact indexed.insert done
  | unregister pluginId =>
    cases done
    exact indexed.unregister pluginId

theorem Indexed.lookup (indexed : Indexed registry) (action : String) :
    match registry.findActionProvider action with
    | .notFound => ∀ id, ¬Declares registry.plugins.byPluginId id action
    | .found provider => registry.get provider.pluginId = some provider ∧
        ∀ id, Declares registry.plugins.byPluginId id action ↔ id = provider.pluginId
    | .ambiguous ids => ids.Nodup ∧ 2 ≤ ids.length ∧ ∀ id, Declares registry.plugins.byPluginId id action ↔ id ∈ ids := by
  have represents := indexed action
  generalize first : registry.actions.index.get action = single at represents
  generalize second : registry.actions.ambiguous.get action = colliding at represents
  cases represents with
  | nobody unknown =>
    simp only [PluginRegistry.findActionProvider, first, second]
    exact unknown
  | @one only same =>
    obtain ⟨provider, stored, _⟩ := (same only).mpr rfl
    have found : registry.get only = some provider := stored
    simp only [PluginRegistry.findActionProvider, first, second, found]
    rw [PluginRegistry.get_own found]
    exact ⟨found, same⟩
  | several distinct many same =>
    simp only [PluginRegistry.findActionProvider, second]
    exact ⟨distinct, many, same⟩

/-- After any sequence of calls the lookup of an action answers as the scan: not
found without a declarer, the entry of the only declarer, or all the declarers,
each listed once, when there are several. -/
theorem action_lookup_exact (maps : RegistryMaps) (run : Run RegistryMaps.step unguarded {} maps) (action : String) :
    ((∀ id, ¬Declares maps.byPluginId id action) → maps.findActionProvider action = .notFound) ∧
    (∀ only, (∀ id, Declares maps.byPluginId id action ↔ id = only) →
      ∃ provider, maps.byPluginId.get only = some provider ∧ maps.findActionProvider action = .found provider) ∧
    (∀ id other, Declares maps.byPluginId id action → Declares maps.byPluginId other action → id ≠ other →
      ∃ ids, maps.findActionProvider action = .ambiguous ids ∧ ids.Nodup ∧
        ∀ id, id ∈ ids ↔ Declares maps.byPluginId id action) := by
  obtain ⟨registry, rfl, indexed⟩ := run_registry indexed_empty (fun _ _ _ => Indexed.operation) run
  have sameLookup : (mapsOf registry).findActionProvider action = registry.findActionProvider action := rfl
  have sameEntries : (mapsOf registry).byPluginId = registry.plugins.byPluginId := rfl
  have lookup := indexed.lookup action
  rw [sameLookup, sameEntries]
  cases answer : registry.findActionProvider action with
  | notFound =>
    simp only [answer] at lookup
    refine ⟨fun _ => rfl, ?_, ?_⟩
    · intro only same
      exact absurd ((same only).mpr rfl) (lookup only)
    · intro id other declares _ _
      exact absurd declares (lookup id)
  | found provider =>
    simp only [answer] at lookup
    obtain ⟨stored, unique⟩ := lookup
    refine ⟨?_, ?_, ?_⟩
    · intro unknown
      exact absurd ((unique provider.pluginId).mpr rfl) (unknown provider.pluginId)
    · intro only same
      have own : only = provider.pluginId := (unique only).mp ((same only).mpr rfl)
      subst own
      exact ⟨provider, stored, rfl⟩
    · intro id other declares alsoDeclares different
      exact absurd (((unique id).mp declares).trans ((unique other).mp alsoDeclares).symm) different
  | ambiguous ids =>
    simp only [answer] at lookup
    obtain ⟨distinct, many, same⟩ := lookup
    obtain ⟨first, second, rest, rfl⟩ : ∃ first second rest, ids = first :: second :: rest := by
      rcases ids with _ | ⟨first, _ | ⟨second, rest⟩⟩
      · simp at many
      · simp at many
      · exact ⟨first, second, rest, rfl⟩
    have apart : first ≠ second := by
      intro equal
      simp [equal] at distinct
    refine ⟨?_, ?_, ?_⟩
    · intro unknown
      exact absurd ((same first).mpr (by simp)) (unknown first)
    · intro only single
      have one : first = only := (single first).mp ((same first).mpr (by simp))
      have two : second = only := (single second).mp ((same second).mpr (by simp))
      exact absurd (one.trans two.symm) apart
    · intro _ _ _ _ _
      exact ⟨first :: second :: rest, rfl, distinct, fun id => (same id).symm⟩

end Registry

def collisionCalls : List RegistryCall :=
  [offers "notes" { conn := 1 } ["show", "show"], offers "tv" { conn := 2 } ["show"]]

def collisionMaps : RegistryMaps := (exec RegistryMaps.step unguarded {} collisionCalls).get (by decide +kernel)

theorem action_lookup_exact_show :
    ∃ ids, collisionMaps.findActionProvider "show" = .ambiguous ids ∧ ids.Nodup ∧
      ∀ id, id ∈ ids ↔ Declares collisionMaps.byPluginId id "show" := by
  have run : Run RegistryMaps.step unguarded {} collisionMaps := exec_get_run (by decide +kernel)
  have declares (id : String) (named : (collisionMaps.byPluginId.get id).any (·.manifest.actions.contains "show") = true) :
      Declares collisionMaps.byPluginId id "show" := by
    obtain ⟨entry, found, listed⟩ := (Option.any_eq_true _ _).mp named
    exact ⟨entry, found, by simpa using listed⟩
  exact (action_lookup_exact collisionMaps run "show").2.2 "notes" "tv" (declares "notes" (by decide +kernel))
    (declares "tv" (by decide +kernel)) (by decide)

end Vynkor.Proofs
