import MmoServer.Db.FlushHolding

set_option autoImplicit false

namespace MmoServer.Db

variable {V : Type}

namespace Server

-- The condition: a write replaces an entry of its entity that no Flush selected.
def ReplacesUnselected (s : Server V) : Action V → Prop
  | .write w _ => ∀ item ∈ w.items, ∀ old ∈ s.sync.dirtyEntries.lookup (formatDirtyKey w.entityType item.1),
      old.status = .new ∧ old.entity = ⟨w.entityType, item.1⟩
  | _ => True

-- A Flush in progress: its entries are still in the dirty set as it selected
-- them, each in one batch, and each has a statement to come or was applied last.
structure OnTrack (cs : CacheSync V) (task : FlushTask V) : Prop where
  carried : ∀ entry ∈ task.entries, cs.dirtyEntries.lookup entry.key = some entry ∧ entry.status ≠ .new
  distinct : (task.entries.map DirtyEntry.key).Nodup
  sources : ∀ batch ∈ task.batches, ∀ x ∈ batch.pending, ∃ entry ∈ batch.entries, x = entry.write
  progress : ∀ batch ∈ task.batches, ∀ entry ∈ batch.entries,
    entry.write ∈ batch.pending ∨ History.latest WriteID.entity entry.entity cs.applied = some entry.write

structure Tracked (s : Server V) : Prop where
  keyed : s.sync.WellKeyed
  fresh : ∀ key entry, s.sync.dirtyEntries.lookup key = some entry →
    History.latest WriteID.entity entry.entity s.acked = some entry.write
  clean : ∀ entity last, History.latest WriteID.entity entity s.acked = some last →
    (∃ entry, s.sync.dirtyEntries.lookup (formatDirtyKey entity.entityType entity.entityID) = some entry ∧
      entry.write = last) ∨ History.latest WriteID.entity entity s.sync.applied = some last
  tasks : ∀ number task, s.tasks.lookup number = some task → OnTrack s.sync task
  disjoint : ∀ first one second two, s.tasks.lookup first = some one → s.tasks.lookup second = some two → first ≠ second →
    ∀ entry ∈ one.entries, ∀ other ∈ two.entries, entry.key ≠ other.key

theorem tracked_start (config : CacheSyncConfig) (cache : Redis.RedisCache (EntityData V)) :
    Tracked { sync := { config := config, cache := cache } } where
  keyed := by intro key entry found; simp at found
  fresh := by intro key entry found; simp at found
  clean := by intro entity last found; simp at found
  tasks := by intro number task found; simp at found
  disjoint := by intro first one second two found; simp at found

theorem same_key_of_entity (first second : DirtyEntry V) (same : first.entity = second.entity) : first.key = second.key := by
  rw [DirtyEntry.entity, DirtyEntry.entity, EntityKey.mk.injEq] at same
  rw [DirtyEntry.key, DirtyEntry.key, same.1, same.2]

namespace Tracked

variable {s : Server V}

theorem holding (tracked : s.Tracked) : s.Holding where
  keyed := tracked.keyed
  tasks number task found := ⟨(tracked.tasks number task found).carried, (tracked.tasks number task found).distinct⟩
  disjoint := tracked.disjoint

theorem of_holding (holding : s.Holding)
    (fresh : ∀ key entry, s.sync.dirtyEntries.lookup key = some entry →
      History.latest WriteID.entity entry.entity s.acked = some entry.write)
    (clean : ∀ entity last, History.latest WriteID.entity entity s.acked = some last →
      (∃ entry, s.sync.dirtyEntries.lookup (formatDirtyKey entity.entityType entity.entityID) = some entry ∧
        entry.write = last) ∨ History.latest WriteID.entity entity s.sync.applied = some last)
    (follows : ∀ number task, s.tasks.lookup number = some task →
      (∀ batch ∈ task.batches, ∀ x ∈ batch.pending, ∃ entry ∈ batch.entries, x = entry.write) ∧
      ∀ batch ∈ task.batches, ∀ entry ∈ batch.entries,
        entry.write ∈ batch.pending ∨ History.latest WriteID.entity entry.entity s.sync.applied = some entry.write) :
    s.Tracked where
  keyed := holding.keyed
  fresh := fresh
  clean := clean
  tasks number task found :=
    ⟨(holding.tasks number task found).carried, (holding.tasks number task found).distinct,
      (follows number task found).1, (follows number task found).2⟩
  disjoint := holding.disjoint

theorem replaces_free (tracked : s.Tracked) (action : Action V) (condition : s.ReplacesUnselected action) :
    s.ReplacesFree action := by
  cases action with
  | write w env =>
    intro _ item member
    refine ⟨fun old present => (condition item member old present).2, ?_⟩
    intro task inTasks entry held same
    obtain ⟨number, present⟩ := (AList.mem_values s.tasks task).mp inTasks
    obtain ⟨stored, selected⟩ := (tracked.tasks number task present).carried entry held
    exact selected (condition item member entry (same ▸ stored)).1
  | _ => trivial

end Tracked

theorem tracked_write (s : Server V) (w : Write V) (env : Env V) (after : CacheSync V) (tracked : s.Tracked)
    (condition : s.ReplacesUnselected (.write w env)) (change : Write.Deferred { env with ticket := s.next } w s.sync after)
    (holding : Holding { s with sync := after, acked := s.acked ++ w.writeIDs s.next, next := s.next + 1 }) :
    Tracked { s with sync := after, acked := s.acked ++ w.writeIDs s.next, next := s.next + 1 } := by
  have same : after.applied = s.sync.applied := by rw [CacheSync.applied, CacheSync.applied, change.log]
  refine .of_holding holding ?_ ?_ ?_
  · intro key entry found
    rcases change.origin key entry found with ⟨item, member, rfl, _⟩ | ⟨old, absent⟩
    · exact Write.latest_written w s.next s.acked item member
    · rw [Write.latest_unwritten w s.next s.acked entry.entity, tracked.fresh key entry old]
      intro item member same
      refine absent item member ((same_key_of_entity _ entry ?_).trans (tracked.keyed key entry old))
      exact same
  · intro entity last found
    rw [same]
    by_cases mine : ∃ item ∈ w.items, ⟨w.entityType, item.1⟩ = entity
    · obtain ⟨item, member, rfl⟩ := mine
      rw [Write.latest_written w s.next s.acked item member, Option.some_inj] at found
      exact .inl ⟨_, change.stored item member, found⟩
    · have foreign : ∀ item ∈ w.items, ⟨w.entityType, item.1⟩ ≠ entity := fun item member same => mine ⟨item, member, same⟩
      rw [Write.latest_unwritten w s.next s.acked entity foreign] at found
      rcases tracked.clean entity last found with ⟨old, present, own⟩ | applied
      · have sameEntity : old.entity = entity := by
          rw [← (History.latest_mem WriteID.entity entity s.acked last found).2, ← own]
          rfl
        refine .inl ⟨old, change.keeps_foreign ?_ _ old present (sameEntity ▸ foreign), own⟩
        exact fun item member old present => (condition item member old present).2
      · exact .inr applied
  · intro number task present
    rw [same]
    exact ⟨(tracked.tasks number task present).sources, (tracked.tasks number task present).progress⟩

theorem tracked_begin (s : Server V) (number : Nat) (orders : Orders V) (tracked : s.Tracked) :
    (s.beginFlush number orders).Tracked := by
  have acked : (s.beginFlush number orders).acked = s.acked := by
    rcases begin_flush_cases number orders s with ⟨idle, _⟩ | ⟨_, _, begun⟩
    · rw [idle]
    · rw [begun]
  refine .of_holding (tracked.holding.beginFlush number orders) ?_ ?_ ?_
  · intro key entry found
    rw [begin_flush_sync] at found
    obtain ⟨old, present, rfl⟩ := selected_origin orders.dirty s.sync key entry found
    have same : old.select.entity = old.entity := congrArg WriteID.entity (select_write old)
    rw [acked, select_write, same]
    exact tracked.fresh key old present
  · intro entity last found
    rw [acked] at found
    rw [begin_flush_sync]
    rcases tracked.clean entity last found with ⟨old, present, own⟩ | applied
    · exact .inl ⟨old.select, by rw [lookup_selected, present]; rfl, by rw [select_write, own]⟩
    · exact .inr applied
  · intro other task found
    rw [begin_flush_sync]
    rcases begin_flush_task number orders s tracked.keyed other task found with planned | before
    · exact ⟨fun batch member x => (planned batch member x).mp,
        fun batch member entry inBatch => .inl ((planned batch member _).mpr ⟨entry, inBatch, rfl⟩)⟩
    · exact ⟨(tracked.tasks other task before).sources, (tracked.tasks other task before).progress⟩

end Server

end MmoServer.Db
