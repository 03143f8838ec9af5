import Mathlib.Data.List.Flatten
import Mathlib.Data.List.Sort
import Vynkor.Data.DashMap

/-! Pieces of a sequence, gathered in a map under their keys in any order. When
there are as many as the sequence has keys, they make up the whole. -/

namespace DashMap
variable {κ α : Type} [DecidableEq κ]

def gathered (map : DashMap κ (List α)) : List α := map.keys.flatMap fun key => (map.get key).getD []

theorem gathered_insert (map : DashMap κ (List α)) (key : κ) (piece : List α) :
    (gathered (map.insert key piece)).length + ((map.get key).map List.length).getD 0 =
      map.gathered.length + piece.length := by
  have rest : (map.keys.erase key).flatMap (fun other => (get (map.insert key piece) other).getD []) =
      (map.keys.erase key).flatMap fun other => (map.get other).getD [] := by
    apply List.flatMap_congr
    intro other member
    have different : other ≠ key := (map.keys_nodup.mem_erase_iff.mp member).1
    rw [get_insert, if_neg different]
  have inserted : gathered (map.insert key piece) =
      piece ++ (map.keys.erase key).flatMap fun other => (map.get other).getD [] := by
    rw [gathered, AList.keys_insert, List.flatMap_cons, rest, get_insert_self, Option.getD_some]
  rw [inserted, List.length_append]
  by_cases present : key ∈ map.keys
  · have split : map.gathered.length = ((map.get key).getD []).length +
        ((map.keys.erase key).flatMap fun other => (map.get other).getD []).length := by
      have permuted := (List.perm_cons_erase present).flatMap_right fun other => (map.get other).getD []
      rw [gathered, permuted.length_eq, List.flatMap_cons, List.length_append]
    obtain ⟨old, found⟩ := Option.isSome_iff_exists.mp ((mem_keys map key).mp present)
    simp only [found, Option.getD_some, Option.map_some] at split ⊢
    omega
  · have absent : map.get key = none := by
      simpa using fun found => present ((mem_keys map key).mpr found)
    rw [List.erase_of_not_mem present, absent, gathered]
    simp only [Option.map_none, Option.getD_none]
    omega

/-- Every piece in the map is the piece of its key in the sequence. -/
def Gathers (keys : List κ) (piece : κ → List α) (map : DashMap κ (List α)) : Prop :=
  ∀ key value, map.get key = some value → key ∈ keys ∧ value = piece key

variable {keys : List κ} {piece : κ → List α} {map : DashMap κ (List α)}

theorem gathers_empty : Gathers keys piece (∅ : DashMap κ (List α)) := by
  intro key value found
  rw [get_empty] at found
  cases found

section
variable (gathers : Gathers keys piece map)
include gathers

theorem Gathers.insert {key : κ} (member : key ∈ keys) : Gathers keys piece (map.insert key (piece key)) := by
  intro other value found
  rw [get_insert] at found
  split at found
  next same =>
    cases found
    exact ⟨same ▸ member, same ▸ rfl⟩
  · exact gathers other value found

theorem Gathers.keys_subset : map.keys ⊆ keys := by
  intro key member
  obtain ⟨value, found⟩ := Option.isSome_iff_exists.mp ((mem_keys map key).mp member)
  exact (gathers key value found).1

theorem Gathers.gathered_eq : map.gathered = map.keys.flatMap piece := by
  apply List.flatMap_congr
  intro key member
  obtain ⟨value, found⟩ := Option.isSome_iff_exists.mp ((mem_keys map key).mp member)
  rw [found, Option.getD_some, (gathers key value found).2]

theorem Gathers.length_le : map.gathered.length ≤ (keys.flatMap piece).length := by
  obtain ⟨selected, permuted, sublist⟩ := List.subperm_of_subset map.keys_nodup gathers.keys_subset
  rw [gathers.gathered_eq, ← (permuted.flatMap_right piece).length_eq]
  exact (sublist.flatMap piece).length_le

theorem Gathers.complete_iff (distinct : keys.Nodup) :
    map.keys.length = keys.length ↔ ∀ key ∈ keys, (map.get key).isSome = true := by
  constructor
  · intro full key member
    have permuted := (List.subperm_of_subset map.keys_nodup gathers.keys_subset).perm_of_length_le (by omega)
    exact (mem_keys map key).mp (permuted.mem_iff.mpr member)
  · intro all
    have covered : keys ⊆ map.keys := fun key member => (mem_keys map key).mpr (all key member)
    have fewer := (List.subperm_of_subset distinct covered).length_le
    have more := (List.subperm_of_subset map.keys_nodup gathers.keys_subset).length_le
    omega

end

/-- Sorted by their keys, all pieces together are the whole. -/
theorem Gathers.whole (le : κ → κ → Prop) [DecidableRel le] [Std.Total le] [IsTrans κ le] [Std.Antisymm le]
    (gathers : Gathers keys piece map) (sorted : keys.Pairwise le) (full : map.keys.length = keys.length) :
    (map.keys.mergeSort fun first second => decide (le first second)).flatMap (fun key => (map.get key).getD []) =
      keys.flatMap piece := by
  have permuted : map.keys.Perm keys :=
    (List.subperm_of_subset map.keys_nodup gathers.keys_subset).perm_of_length_le (by omega)
  have ordered : map.keys.mergeSort (fun first second => decide (le first second)) = keys :=
    ((List.mergeSort_perm _ _).trans permuted).eq_of_pairwise' (List.pairwise_mergeSort' le _) sorted
  rw [ordered]
  apply List.flatMap_congr
  intro key member
  obtain ⟨value, found⟩ := Option.isSome_iff_exists.mp ((mem_keys map key).mp (permuted.mem_iff.mpr member))
  rw [found, Option.getD_some, (gathers key value found).2]

end DashMap
