import MmoServer.Db.Close
import MmoServer.Db.FlushHolding

set_option autoImplicit false

namespace MmoServer.Db

variable {V : Type}

namespace Server

structure Kept (deferred : List WriteID) (s : Server V) : Prop where
  holding : s.Holding
  served : ∀ number task, s.tasks.lookup number = some task → ∀ batch ∈ task.batches, ∀ entry ∈ batch.entries,
    entry.write ∈ batch.pending ∨ entry.write ∈ s.sync.applied
  clean : ∀ x, History.latest WriteID.entity x.entity deferred = some x →
    (∃ entry, s.sync.dirtyEntries.lookup (formatDirtyKey x.entity.entityType x.entity.entityID) = some entry ∧ entry.write = x) ∨
      x ∈ s.sync.applied

theorem kept_start (config : CacheSyncConfig) (cache : Redis.RedisCache (EntityData V)) :
    Kept [] { sync := { config := config, cache := cache } } where
  holding := holding_start config cache
  served := by intro number task found; simp at found
  clean := by intro x found; simp at found

namespace Kept

variable {deferred : List WriteID} {s : Server V}

section

variable (kept : s.Kept deferred)

include kept

theorem immediate (w : Write V) (env : Env V) (now : w.immediate = true) : (s.write w env).Kept deferred := by
  have holding := step_holding s (.write w env) _ kept.holding (fun later => by simp [now] at later) rfl
  obtain ⟨cache, applied, same, _⟩ := Write.run_immediate { env with ticket := s.next } w s.sync now
  have sync : (s.write w env).sync = { s.sync with cache := cache, log := s.sync.log ++ applied } := same
  have grown : (s.write w env).sync.applied = s.sync.applied ++ applied.flatMap Command.writes := by
    rw [sync]
    simp [CacheSync.applied]
  refine ⟨holding, ?_, ?_⟩
  · intro number task found batch inTask entry member
    rw [grown]
    exact (kept.served number task found batch inTask entry member).imp id (List.mem_append_left _)
  · intro x last
    rw [grown, sync]
    exact (kept.clean x last).imp id (List.mem_append_left _)

theorem failed_write (cache : Redis.RedisCache (EntityData V)) (next : Nat) :
    Kept deferred { s with sync := { s.sync with cache := cache }, next := next } :=
  ⟨kept.holding.frame _ rfl kept.holding.keyed fun _ _ _ _ _ => rfl, kept.served, kept.clean⟩

theorem deferred_write (w : Write V) (env : Env V) (after : CacheSync V) (acked : List WriteID) (later : w.immediate = false)
    (condition : s.ReplacesFree (.write w env)) (change : Write.Deferred { env with ticket := s.next } w s.sync after) :
    Kept (deferred ++ w.writeIDs s.next) { s with sync := after, acked := acked, next := s.next + 1 } := by
  have same : after.applied = s.sync.applied := by rw [CacheSync.applied, CacheSync.applied, change.log]
  refine ⟨kept.holding.deferred w env after acked later condition change, ?_, ?_⟩
  · intro number task found
    rw [same]
    exact kept.served number task found
  · intro x last
    rw [same]
    by_cases mine : ∃ item ∈ w.items, ⟨w.entityType, item.1⟩ = x.entity
    · obtain ⟨item, member, own⟩ := mine
      rw [← own, Write.latest_written w s.next deferred item member, Option.some_inj] at last
      subst last
      exact .inl ⟨_, change.stored item member, rfl⟩
    · have foreign : ∀ item ∈ w.items, ⟨w.entityType, item.1⟩ ≠ x.entity := fun item member same => mine ⟨item, member, same⟩
      rw [Write.latest_unwritten w s.next deferred x.entity foreign] at last
      rcases kept.clean x last with ⟨old, present, own⟩ | applied
      · refine .inl ⟨old, change.keeps_foreign ?_ _ old present ?_, own⟩
        · exact fun item member => (condition later item member).1
        · rw [← own] at foreign
          exact foreign
      · exact .inr applied

theorem beginFlush (number : Nat) (orders : Orders V) : (s.beginFlush number orders).Kept deferred := by
  refine ⟨kept.holding.beginFlush number orders, ?_, ?_⟩
  · intro other task found batch inTask entry member
    rw [begin_flush_sync]
    rcases begin_flush_task number orders s kept.holding.keyed other task found with planned | before
    · exact .inl ((planned batch inTask _).mpr ⟨entry, member, rfl⟩)
    · exact kept.served other task before batch inTask entry member
  · intro x last
    rw [begin_flush_sync]
    rcases kept.clean x last with ⟨old, present, own⟩ | applied
    · exact .inl ⟨old.select, by rw [lookup_selected, present]; rfl, by rw [select_write, own]⟩
    · exact .inr applied

theorem executed (number : Nat) (entries : List (DirtyEntry V)) (command : Command V) (commands : List (Command V))
    (batches : List (Batch V)) (errs : List String) (selected : Nat)
    (present : s.tasks.lookup number = some ⟨⟨entries, command :: commands⟩ :: batches, errs, selected⟩)
    (holding : Holding { s with
      sync := { s.sync with log := s.sync.log ++ [command] }
      tasks := s.tasks.insert number ⟨⟨entries, commands⟩ :: batches, errs, selected⟩ }) :
    Kept deferred { s with
      sync := { s.sync with log := s.sync.log ++ [command] }
      tasks := s.tasks.insert number ⟨⟨entries, commands⟩ :: batches, errs, selected⟩ } := by
  have grown : CacheSync.applied { s.sync with log := s.sync.log ++ [command] } = s.sync.applied ++ command.writes := by
    simp [CacheSync.applied]
  refine ⟨holding, ?_, ?_⟩
  · intro other task found batch inTask entry member
    rw [grown]
    rw [AList.lookup_insert_eq] at found
    split at found
    · cases found
      rcases List.mem_cons.mp inTask with rfl | later
      · rcases kept.served number _ present _ List.mem_cons_self entry member with pending | done
        · exact (List.mem_append.mp pending).symm.imp id (List.mem_append_right _)
        · exact .inr (List.mem_append_left _ done)
      · exact (kept.served number _ present batch (List.mem_cons_of_mem _ later) entry member).imp id (List.mem_append_left _)
    · exact (kept.served other task found batch inTask entry member).imp id (List.mem_append_left _)
  · intro x last
    rw [grown]
    exact (kept.clean x last).imp id (List.mem_append_left _)

theorem failed (number : Nat) (batch : Batch V) (batches : List (Batch V)) (errs : List String) (err : String) (selected : Nat)
    (present : s.tasks.lookup number = some ⟨batch :: batches, errs, selected⟩)
    (holding : Holding { s with tasks := s.tasks.insert number ⟨batches, errs ++ [err], selected⟩ }) :
    Kept deferred { s with tasks := s.tasks.insert number ⟨batches, errs ++ [err], selected⟩ } := by
  refine ⟨holding, ?_, kept.clean⟩
  intro other task found
  rw [AList.lookup_insert_eq] at found
  split at found
  · cases found
    exact fun batch later => kept.served number _ present batch (List.mem_cons_of_mem _ later)
  · exact kept.served other task found

theorem removed (number : Nat) (entries : List (DirtyEntry V)) (batches : List (Batch V)) (errs : List String) (selected : Nat)
    (present : s.tasks.lookup number = some ⟨⟨entries, []⟩ :: batches, errs, selected⟩)
    (holding : Holding { s with sync := s.sync.removeFlushed entries, tasks := s.tasks.insert number ⟨batches, errs, selected⟩ }) :
    Kept deferred { s with sync := s.sync.removeFlushed entries, tasks := s.tasks.insert number ⟨batches, errs, selected⟩ } := by
  refine ⟨holding, ?_, ?_⟩
  · intro other task found
    rw [AList.lookup_insert_eq] at found
    split at found
    · cases found
      exact fun batch later => kept.served number _ present batch (List.mem_cons_of_mem _ later)
    · exact kept.served other task found
  · intro x last
    rcases kept.clean x last with ⟨entry, found, own⟩ | done
    · by_cases gone : formatDirtyKey x.entity.entityType x.entity.entityID ∈ entries.map DirtyEntry.key
      · -- The entry that goes has no statement to come, so it was applied.
        obtain ⟨flushed, member, same⟩ := List.mem_map.mp gone
        have inTask := (FlushTask.mem_entries ⟨⟨entries, []⟩ :: batches, errs, selected⟩ flushed).mpr ⟨_, List.mem_cons_self, member⟩
        have stored := ((kept.holding.tasks number _ present).carried flushed inTask).1
        rw [same, found, Option.some_inj] at stored
        subst stored
        rcases kept.served number _ present _ List.mem_cons_self entry member with never | done
        · cases never
        · exact .inr (own ▸ done)
      · exact .inl ⟨entry, by rw [lookup_removed, if_neg gone, found], own⟩
    · exact .inr done

theorem finished (number count : Nat) (holding : Holding { s with sync := s.sync.noteFlush count, tasks := s.tasks.erase number }) :
    Kept deferred { s with sync := s.sync.noteFlush count, tasks := s.tasks.erase number } := by
  refine ⟨holding, ?_, kept.clean⟩
  intro other task found
  rw [AList.lookup_erase_eq] at found
  split at found
  · cases found
  · exact kept.served other task found

end

end Kept

end Server

namespace Layer

theorem serve_kept (s : Layer V) (action : Action V) (after : Server V) (kept : s.server.Kept s.deferred)
    (condition : s.server.ReplacesFree action) (taken : s.server.step action = some after) :
    after.Kept (s.note action).deferred := by
  have holding := Server.step_holding s.server action after kept.holding condition taken
  cases Server.step_effect s.server action after taken with
  | write w env =>
    rw [note]
    cases kind : w.immediate with
    | true =>
      have written := kept.immediate w env kind
      split <;> exact written
    | false =>
      rcases Write.run_deferred { env with ticket := s.server.next } w s.server.sync kind with
        ⟨err, cache, failed, _⟩ | ⟨synced, stored, change⟩
      · rw [Server.write, failed]
        exact kept.failed_write cache _
      · rw [Server.write, stored]
        exact kept.deferred_write w env synced _ kind condition change
  | beginFlush number orders fresh => exact kept.beginFlush number orders
  | executed number entries command commands batches errs selected present =>
    exact kept.executed number entries command commands batches errs selected present holding
  | failed number outcome err entries command commands batches errs selected present bad =>
    exact kept.failed number _ batches errs err selected present holding
  | removed number entries batches errs selected present =>
    exact kept.removed number entries batches errs selected present holding
  | finished number errs selected present => exact kept.finished number selected holding

end Layer

end MmoServer.Db
