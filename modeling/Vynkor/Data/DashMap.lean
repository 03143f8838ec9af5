import Mathlib.Data.List.AList

/-! Concurrent hash maps, seen between two of their operations. Each operation
holds a shard lock, so a sequence of operations is a sequence of ordinary maps.
Iteration order is the order of the entries; no result below depends on it. -/

abbrev DashMap (κ ν : Type) := AList (fun _ : κ => ν)

namespace DashMap
variable {κ ν : Type} [DecidableEq κ] {map : DashMap κ ν}

section
variable (map : DashMap κ ν)

def get (key : κ) : Option ν := map.lookup key

def containsKey (key : κ) : Bool := (map.get key).isSome

/-- `get_mut` followed by an assignment through the returned reference. -/
def update (key : κ) (f : ν → ν) : DashMap κ ν :=
  match map.get key with
  | some value => map.insert key (f value)
  | none => map

def retain (keep : κ → ν → Bool) : DashMap κ ν :=
  ⟨map.entries.filter fun entry => keep entry.1 entry.2,
    map.nodupKeys.sublist List.filter_sublist⟩

def toList : List (κ × ν) := map.entries.map fun entry => (entry.1, entry.2)

def values : List ν := map.entries.map fun entry => entry.2

end

@[simp] theorem get_empty (key : κ) : get (∅ : DashMap κ ν) key = none := AList.lookup_empty key

@[grind =] theorem get_insert (map : DashMap κ ν) (key other : κ) (value : ν) :
    get (map.insert key value) other = if other = key then some value else map.get other := by
  by_cases same : other = key
  · subst other
    simp [get]
  · simp [get, same, AList.lookup_insert_ne same]

@[simp] theorem get_insert_self (map : DashMap κ ν) (key : κ) (value : ν) :
    get (map.insert key value) key = some value := by
  simp [get_insert]

@[grind =] theorem get_erase (map : DashMap κ ν) (key other : κ) :
    get (map.erase key) other = if other = key then none else map.get other := by
  by_cases same : other = key
  · subst other
    simp [get]
  · simp [get, same, AList.lookup_erase_ne same]

@[simp] theorem get_erase_self (map : DashMap κ ν) (key : κ) : get (map.erase key) key = none := by
  simp [get_erase]

theorem get_erase_eq_some {key other : κ} {value : ν} :
    get (map.erase key) other = some value ↔ other ≠ key ∧ map.get other = some value := by
  rw [get_erase]
  split
  next same => simp [same]
  next different => simp [different]

@[grind =] theorem get_update (map : DashMap κ ν) (key other : κ) (f : ν → ν) :
    get (map.update key f) other = if other = key then (map.get other).map f else map.get other := by
  simp only [update]
  cases found : map.get key with
  | none =>
    by_cases same : other = key
    · subst other
      simp [found]
    · simp [same]
  | some value =>
    rw [get_insert]
    by_cases same : other = key
    · subst other
      simp [found]
    · simp [same]

theorem mem_keys (map : DashMap κ ν) (key : κ) : key ∈ map.keys ↔ (map.get key).isSome = true := by
  rw [← AList.mem_keys]
  exact AList.lookup_isSome.symm

theorem keys_length_insert_present {key : κ} {old : ν} (present : map.get key = some old)
    (value : ν) : (map.insert key value).keys.length = map.keys.length := by
  have member : key ∈ map.keys := (mem_keys map key).mpr (by rw [present]; rfl)
  have positive := List.length_pos_of_mem member
  rw [AList.keys_insert, List.length_cons, List.length_erase_of_mem member]
  omega

theorem keys_length_insert_le (map : DashMap κ ν) (key : κ) (value : ν) :
    (map.insert key value).keys.length ≤ map.keys.length + 1 := by
  rw [AList.keys_insert, List.length_cons]
  exact Nat.succ_le_succ List.length_erase_le

theorem keys_length_erase_le (map : DashMap κ ν) (key : κ) : (map.erase key).keys.length ≤ map.keys.length := by
  rw [AList.keys_erase]
  exact List.length_erase_le

omit [DecidableEq κ] in
theorem keys_length_retain_le (map : DashMap κ ν) (keep : κ → ν → Bool) :
    (map.retain keep).keys.length ≤ map.keys.length :=
  (List.filter_sublist.map Sigma.fst).length_le

theorem mem_entries (map : DashMap κ ν) (key : κ) (value : ν) :
    Sigma.mk key value ∈ map.entries ↔ map.get key = some value :=
  AList.mem_lookup_iff.symm

theorem get_retain (map : DashMap κ ν) (keep : κ → ν → Bool) (key : κ) :
    get (map.retain keep) key = (map.get key).filter (keep key) := by
  ext value
  rw [← mem_entries, Option.filter_eq_some_iff, ← mem_entries, retain, List.mem_filter]

theorem mem_toList (map : DashMap κ ν) (key : κ) (value : ν) :
    (key, value) ∈ map.toList ↔ map.get key = some value := by
  rw [← mem_entries]
  simp only [toList, List.mem_map, Prod.mk.injEq]
  constructor
  · intro member
    obtain ⟨entry, member, rfl, rfl⟩ := member
    exact member
  · intro member
    exact ⟨_, member, rfl, rfl⟩

omit [DecidableEq κ] in
theorem nodup_keys_filter (map : DashMap κ ν) (select : κ × ν → Bool) :
    ((map.toList.filter select).map Prod.fst).Nodup := by
  apply List.Nodup.sublist (List.filter_sublist.map Prod.fst)
  rw [toList, List.map_map]
  exact map.nodupKeys

theorem mem_values (map : DashMap κ ν) (value : ν) :
    value ∈ map.values ↔ ∃ key, map.get key = some value := by
  simp only [values, List.mem_map]
  constructor
  · intro member
    obtain ⟨entry, member, rfl⟩ := member
    exact ⟨entry.1, (mem_entries map _ _).mp member⟩
  · intro stored
    obtain ⟨key, found⟩ := stored
    exact ⟨⟨key, value⟩, (mem_entries map key value).mpr found, rfl⟩

theorem nodup_values (map : DashMap κ ν) (name : ν → κ)
    (own : ∀ key value, map.get key = some value → name value = key) : (map.values.map name).Nodup := by
  have keys : map.values.map name = map.entries.map Sigma.fst := by
    simp only [values, List.map_map]
    apply List.map_congr_left
    intro entry member
    exact own entry.1 entry.2 ((mem_entries map entry.1 entry.2).mp member)
  rw [keys]
  exact map.nodupKeys

omit [DecidableEq κ] in
theorem countP_values (map : DashMap κ ν) (keep : ν → Bool) :
    map.values.countP keep = ((map.toList.filter fun entry => keep entry.2).map Prod.fst).length := by
  rw [values, toList, List.countP_map, List.countP_eq_length_filter, List.filter_map, List.length_map, List.length_map]
  rfl

theorem countP_values_le {map later : DashMap κ ν} {keep : ν → Bool} (extra : List κ)
    (covers : ∀ key value, later.get key = some value → keep value = true →
      key ∈ extra ∨ ∃ before, map.get key = some before ∧ keep before = true) :
    later.values.countP keep ≤ extra.length + map.values.countP keep := by
  rw [countP_values, countP_values, ← List.length_append]
  apply List.Subperm.length_le
  apply List.subperm_of_subset (nodup_keys_filter later _)
  intro name counted
  obtain ⟨⟨key, value⟩, member, rfl⟩ := List.mem_map.mp counted
  obtain ⟨listed, keeps⟩ := List.mem_filter.mp member
  rcases covers key value ((mem_toList later key value).mp listed) keeps with new | ⟨before, stored, kept⟩
  · exact List.mem_append_left _ new
  · refine List.mem_append_right _ (List.mem_map.mpr ⟨(key, before), ?_, rfl⟩)
    exact List.mem_filter.mpr ⟨(mem_toList map key before).mpr stored, kept⟩

end DashMap
