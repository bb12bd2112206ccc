import MmoServer.Db.FlushSteps

set_option autoImplicit false

namespace MmoServer.Db

variable {V : Type}

namespace Server

-- The condition: a deferred write keeps to the entries of its own entities, and
-- to those that no Flush in progress has selected.
def ReplacesFree (s : Server V) : Action V → Prop
  | .write w _ => w.immediate = false → ∀ item ∈ w.items,
      (∀ old ∈ s.sync.dirtyEntries.lookup (formatDirtyKey w.entityType item.1), old.entity = ⟨w.entityType, item.1⟩) ∧
      ∀ task ∈ s.tasks.values, ∀ entry ∈ task.entries, entry.key ≠ formatDirtyKey w.entityType item.1
  | _ => True

structure Holds (cs : CacheSync V) (task : FlushTask V) : Prop where
  carried : ∀ entry ∈ task.entries, cs.dirtyEntries.lookup entry.key = some entry ∧ entry.status ≠ .new
  distinct : (task.entries.map DirtyEntry.key).Nodup

structure Holding (s : Server V) : Prop where
  keyed : s.sync.WellKeyed
  tasks : ∀ number task, s.tasks.lookup number = some task → Holds s.sync task
  disjoint : ∀ first one second two, s.tasks.lookup first = some one → s.tasks.lookup second = some two → first ≠ second →
    ∀ entry ∈ one.entries, ∀ other ∈ two.entries, entry.key ≠ other.key

theorem holding_start (config : CacheSyncConfig) (cache : Redis.RedisCache (EntityData V)) :
    Holding { sync := { config := config, cache := cache } } where
  keyed := by intro key entry found; simp at found
  tasks := by intro number task found; simp at found
  disjoint := by intro first one second two found; simp at found

namespace Holding

variable {s : Server V}

theorem frame (holding : s.Holding) (after : Server V) (same : after.tasks = s.tasks) (keyed : after.sync.WellKeyed)
    (kept : ∀ number task, s.tasks.lookup number = some task → ∀ entry ∈ task.entries,
      after.sync.dirtyEntries.lookup entry.key = s.sync.dirtyEntries.lookup entry.key) : after.Holding where
  keyed := keyed
  tasks number task found := by
    rw [same] at found
    have before := holding.tasks number task found
    refine ⟨?_, before.distinct⟩
    intro entry member
    rw [kept number task found entry member]
    exact before.carried entry member
  disjoint := by
    rw [same]
    exact holding.disjoint

theorem replaced_origin (tasks : GoMap Nat (FlushTask V)) (number : Nat) (old new : FlushTask V)
    (present : tasks.lookup number = some old) (shrinks : new.entries.Sublist old.entries) (other : Nat) (task : FlushTask V)
    (found : (tasks.insert number new).lookup other = some task) :
    ∃ original, tasks.lookup other = some original ∧ task.entries.Sublist original.entries := by
  rw [AList.lookup_insert_eq] at found
  split at found
  · rename_i own
    cases found
    exact ⟨old, own ▸ present, shrinks⟩
  · exact ⟨task, found, .refl _⟩

section

variable (holding : s.Holding)

include holding

theorem shrink (number : Nat) (old new : FlushTask V) (present : s.tasks.lookup number = some old)
    (shrinks : new.entries.Sublist old.entries) : Holding { s with tasks := s.tasks.insert number new } where
  keyed := holding.keyed
  tasks other task found := by
    obtain ⟨original, before, fewer⟩ := replaced_origin s.tasks number old new present shrinks other task found
    have held := holding.tasks other original before
    exact ⟨fun entry member => held.carried entry (fewer.subset member), held.distinct.sublist (fewer.map _)⟩
  disjoint first one second two foundOne foundTwo different entry inOne other inTwo := by
    obtain ⟨firstOld, beforeOne, fewerOne⟩ := replaced_origin s.tasks number old new present shrinks first one foundOne
    obtain ⟨secondOld, beforeTwo, fewerTwo⟩ := replaced_origin s.tasks number old new present shrinks second two foundTwo
    exact holding.disjoint first firstOld second secondOld beforeOne beforeTwo different entry (fewerOne.subset inOne) other
      (fewerTwo.subset inTwo)

theorem finish (number : Nat) : Holding { s with tasks := s.tasks.erase number } := by
  have origin : ∀ other task, (s.tasks.erase number).lookup other = some task → s.tasks.lookup other = some task := by
    intro other task found
    rw [AList.lookup_erase_eq] at found
    split at found
    · cases found
    · exact found
  refine ⟨holding.keyed, fun other task found => holding.tasks other task (origin other task found), ?_⟩
  intro first one second two foundOne foundTwo
  exact holding.disjoint first one second two (origin first one foundOne) (origin second two foundTwo)

theorem select (order : Shuffle (DirtyEntry V)) : Holding { s with sync := (s.sync.selectEntries order).2 } := by
  refine holding.frame _ rfl (well_keyed_select order s.sync holding.keyed) ?_
  intro number task found entry member
  obtain ⟨stored, selected⟩ := (holding.tasks number task found).carried entry member
  rw [lookup_selected, stored, Option.map_some, select_of_selected entry selected]

theorem selected_apart (order : Shuffle (DirtyEntry V)) (number : Nat) (task : FlushTask V)
    (present : s.tasks.lookup number = some task) (entry : DirtyEntry V) (member : entry ∈ task.entries) (chosen : DirtyEntry V)
    (taken : chosen ∈ (s.sync.selectEntries order).1) : entry.key ≠ chosen.key := by
  intro same
  obtain ⟨found, selected⟩ := (holding.tasks number task present).carried entry member
  obtain ⟨key, fresh, stored, unselected, rfl⟩ := (mem_selected order s.sync chosen).mp taken
  rw [same, select_key, holding.keyed key fresh stored, stored, Option.some_inj] at found
  exact selected (found ▸ unselected)

theorem selected_carried (order : Shuffle (DirtyEntry V)) (entry : DirtyEntry V) (taken : entry ∈ (s.sync.selectEntries order).1) :
    (s.sync.selectEntries order).2.dirtyEntries.lookup entry.key = some entry ∧ entry.status ≠ .new := by
  obtain ⟨key, old, found, _, rfl⟩ := (mem_selected order s.sync entry).mp taken
  refine ⟨?_, select_status old⟩
  rw [select_key, holding.keyed key old found, lookup_selected, found]
  rfl

theorem start_flush (number : Nat) (order : Shuffle (DirtyEntry V)) (task : FlushTask V)
    (chosen : ∀ entry ∈ task.entries, entry ∈ (s.sync.selectEntries order).1) (distinct : (task.entries.map DirtyEntry.key).Nodup) :
    Holding { s with sync := (s.sync.selectEntries order).2, tasks := s.tasks.insert number task } := by
  have selected := holding.select order
  refine ⟨selected.keyed, ?_, ?_⟩
  · intro other held found
    rw [AList.lookup_insert_eq] at found
    split at found
    · cases found
      exact ⟨fun entry member => holding.selected_carried order entry (chosen entry member), distinct⟩
    · exact selected.tasks other held found
  · intro first one second two foundOne foundTwo different entry inOne other inTwo
    rw [AList.lookup_insert_eq] at foundOne foundTwo
    split at foundOne
    · split at foundTwo
      · exact absurd (by simp_all) different
      · cases foundOne
        exact (holding.selected_apart order second two foundTwo other inTwo entry (chosen entry inOne)).symm
    · split at foundTwo
      · cases foundTwo
        exact holding.selected_apart order first one foundOne entry inOne other (chosen other inTwo)
      · exact holding.disjoint first one second two foundOne foundTwo different entry inOne other inTwo

theorem beginFlush (number : Nat) (orders : Orders V) : (s.beginFlush number orders).Holding := by
  rcases begin_flush_cases number orders s with ⟨idle, _⟩ | ⟨batches, plan, begun⟩
  · rw [idle]
    exact holding.select orders.dirty
  · rw [begun]
    have planned := plan_flush_some orders _ _ batches plan
    exact holding.start_flush number orders.dirty ⟨batches, [], _⟩ (fun entry member => planned.cover.subset member)
      (planned.keys_nodup (selected_keys_nodup orders.dirty s.sync holding.keyed))

theorem removed_apart (number : Nat) (entries : List (DirtyEntry V)) (commands : List (Command V)) (batches : List (Batch V))
    (errs : List String) (selected : Nat) (present : s.tasks.lookup number = some ⟨⟨entries, commands⟩ :: batches, errs, selected⟩)
    (other : Nat) (task : FlushTask V) (found : (s.tasks.insert number ⟨batches, errs, selected⟩).lookup other = some task)
    (entry : DirtyEntry V) (member : entry ∈ task.entries) : entry.key ∉ entries.map DirtyEntry.key := by
  intro gone
  rw [AList.lookup_insert_eq] at found
  split at found
  · cases found
    have distinct : ((entries ++ batches.flatMap Batch.entries).map DirtyEntry.key).Nodup := (holding.tasks number _ present).distinct
    rw [List.map_append] at distinct
    exact (List.nodup_append.mp distinct).2.2 _ gone _ (List.mem_map_of_mem member) rfl
  · rename_i different
    obtain ⟨flushed, inEntries, same⟩ := List.mem_map.mp gone
    exact holding.disjoint other task number _ found present different entry member flushed
      ((FlushTask.mem_entries _ _).mpr ⟨_, List.mem_cons_self, inEntries⟩) same.symm

theorem deferred (w : Write V) (env : Env V) (after : CacheSync V) (acked : List WriteID) (later : w.immediate = false)
    (condition : s.ReplacesFree (.write w env)) (change : Write.Deferred { env with ticket := s.next } w s.sync after) :
    Holding { s with sync := after, acked := acked, next := s.next + 1 } := by
  refine holding.frame _ rfl (well_keyed_deferred _ w s.sync after change holding.keyed) ?_
  intro number task found entry member
  refine change.kept entry.key fun item inItems same => ?_
  exact (condition later item inItems).2 task ((AList.mem_values s.tasks task).mpr ⟨number, found⟩) entry member same.symm

end

end Holding

theorem step_holding (s : Server V) (action : Action V) (after : Server V) (holding : s.Holding)
    (condition : s.ReplacesFree action) (taken : s.step action = some after) : after.Holding := by
  cases step_effect s action after taken with
  | write w env =>
    obtain ⟨_, after, _, wrote, written⟩ := write_written s w env
    rw [wrote]
    cases written with
    | immediate | refused => exact holding.frame _ rfl holding.keyed fun _ _ _ _ _ => rfl
    | deferred later synced change => exact holding.deferred w env synced _ later condition change
  | beginFlush number orders fresh => exact holding.beginFlush number orders
  | executed number entries command commands batches errs selected present =>
    exact (holding.shrink number _ ⟨⟨entries, commands⟩ :: batches, errs, selected⟩ present (.refl _)).frame _ rfl
      holding.keyed fun _ _ _ _ _ => rfl
  | failed number outcome err entries command commands batches errs selected present bad =>
    exact holding.shrink number _ ⟨batches, errs ++ [err], selected⟩ present (List.sublist_append_right _ _)
  | removed number entries batches errs selected present =>
    refine (holding.shrink number _ ⟨batches, errs, selected⟩ present (List.sublist_append_right _ _)).frame _ rfl
      (well_keyed_remove entries s.sync holding.keyed) ?_
    intro other task found entry member
    rw [lookup_removed, if_neg (holding.removed_apart number entries [] batches errs selected present other task found entry member)]
  | finished number errs selected present =>
    exact (holding.finish number).frame _ rfl holding.keyed fun _ _ _ _ _ => rfl

end Server

end MmoServer.Db
