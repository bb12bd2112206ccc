import Mathlib.Data.List.Nodup
import Mathlib.Tactic

set_option autoImplicit false

namespace Keyed

variable {α K : Type} [DecidableEq K] (key : α → K)

def put (entry : α) (entries : List α) : List α :=
  match entries.findIdx? fun other => key other = key entry with
  | some i => entries.set i entry
  | none => entries ++ [entry]

theorem put_nodup (entry : α) (entries : List α) (distinct : (entries.map key).Nodup) : ((put key entry entries).map key).Nodup := by
  rw [put]
  split
  · rename_i i position
    obtain ⟨inside, matched, -⟩ := List.findIdx?_eq_some_iff_getElem.mp position
    have bound : i < (entries.map key).length := by rwa [List.length_map]
    have same : key entry = (entries.map key)[i] := by
      rw [List.getElem_map]
      exact (of_decide_eq_true matched).symm
    rwa [List.map_set, same, List.set_getElem_self]
  · rename_i position
    rw [List.findIdx?_eq_none_iff] at position
    rw [List.map_append, List.nodup_append]
    refine ⟨distinct, List.nodup_singleton _, ?_⟩
    intro first old second new same
    obtain ⟨other, member, rfl⟩ := List.mem_map.mp old
    rw [List.map_singleton, List.mem_singleton] at new
    exact of_decide_eq_false (position other member) (same.trans new)

theorem mem_put (entry other : α) (entries : List α) (distinct : (entries.map key).Nodup) :
    other ∈ put key entry entries ↔ other = entry ∨ other ∈ entries ∧ key other ≠ key entry := by
  rw [put]
  split
  · rename_i i position
    obtain ⟨inside, matched, -⟩ := List.findIdx?_eq_some_iff_getElem.mp position
    have own : key entries[i] = key entry := of_decide_eq_true matched
    constructor
    · intro member
      obtain ⟨j, bound, rfl⟩ := List.mem_iff_getElem.mp member
      rw [List.length_set] at bound
      rw [List.getElem_set]
      split
      · exact .inl rfl
      · rename_i elsewhere
        refine .inr ⟨List.getElem_mem _, fun same => elsewhere ?_⟩
        have keys : (entries.map key)[i]? = (entries.map key)[j]? := by
          simp only [List.getElem?_map, List.getElem?_eq_getElem inside, List.getElem?_eq_getElem bound, Option.map_some, own, same]
        exact (List.getElem?_inj (by rwa [List.length_map]) distinct).mp keys
    · rintro (rfl | ⟨member, different⟩)
      · exact List.mem_set inside other
      · obtain ⟨j, found⟩ := List.mem_iff_getElem?.mp member
        have elsewhere : i ≠ j := by
          rintro rfl
          rw [List.getElem?_eq_getElem inside, Option.some_inj] at found
          exact different (found ▸ own)
        exact List.mem_iff_getElem?.mpr ⟨j, by rwa [List.getElem?_set_ne elsewhere]⟩
  · rename_i position
    rw [List.findIdx?_eq_none_iff] at position
    rw [List.mem_append, List.mem_singleton, or_comm]
    apply or_congr_right
    exact ⟨fun member => ⟨member, of_decide_eq_false (position other member)⟩, And.left⟩

theorem mem_cut (sought : K) (i : Nat) (entries : List α) (distinct : (entries.map key).Nodup)
    (position : (entries.findIdx? fun entry => key entry = sought) = some i) (other : α) :
    other ∈ entries.take i ++ entries.drop (i + 1) ↔ other ∈ entries ∧ key other ≠ sought := by
  obtain ⟨inside, matched, -⟩ := List.findIdx?_eq_some_iff_getElem.mp position
  have own : key entries[i] = sought := of_decide_eq_true matched
  have split_ : entries = entries.take i ++ entries[i] :: entries.drop (i + 1) := by
    rw [← List.drop_eq_getElem_cons inside, List.take_append_drop]
  have apart : ∀ entry ∈ entries.take i ++ entries.drop (i + 1), key entry ≠ sought := by
    intro entry member
    rw [split_, List.map_append, List.map_cons, List.nodup_middle, List.nodup_cons, ← List.map_append, own] at distinct
    exact fun same => distinct.1 (List.mem_map.mpr ⟨entry, member, same⟩)
  constructor
  · intro member
    refine ⟨?_, apart other member⟩
    rw [split_, List.mem_append, List.mem_cons]
    rcases List.mem_append.mp member with before | behind
    · exact .inl before
    · exact .inr (.inr behind)
  · rintro ⟨member, different⟩
    rw [split_, List.mem_append, List.mem_cons] at member
    rcases member with before | here | behind
    · exact List.mem_append_left _ before
    · rw [here, own] at different
      exact absurd rfl different
    · exact List.mem_append_right _ behind

theorem cut_sublist (i : Nat) (entries : List α) : (entries.take i ++ entries.drop (i + 1)).Sublist entries := by
  rw [← List.eraseIdx_eq_take_drop_succ]
  exact List.eraseIdx_sublist _ _

section Counting

variable {β : Type} [DecidableEq β]

theorem count_flat_map_append (fixed : List β) (rest : α → List β) (entries : List α) (item : β) :
    (entries.flatMap fun entry => fixed ++ rest entry).count item =
      entries.length * fixed.count item + (entries.flatMap rest).count item := by
  induction entries with
  | nil => simp
  | cons entry entries ih =>
    rw [List.flatMap_cons, List.flatMap_cons, List.count_append, List.count_append, List.count_append, ih, List.length_cons]
    ring

theorem count_flat_map_only (give : K → List β) (keys : List K) (distinct : keys.Nodup) (owner : K) (item : β)
    (only : ∀ key, key ≠ owner → item ∉ give key) :
    (keys.flatMap give).count item = if owner ∈ keys then (give owner).count item else 0 := by
  induction keys with
  | nil => simp
  | cons key keys ih =>
    obtain ⟨fresh, later⟩ := List.nodup_cons.mp distinct
    rw [List.flatMap_cons, List.count_append, ih later]
    by_cases here : key = owner
    · subst here
      simp [fresh]
    · rw [List.count_eq_zero.mpr (only key here), Nat.zero_add]
      simp [Ne.symm here]

end Counting

end Keyed
