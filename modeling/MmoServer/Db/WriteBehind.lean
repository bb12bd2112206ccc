import MmoServer.Db.FlushTracking

set_option autoImplicit false

namespace MmoServer.Db

variable {V : Type}

namespace Server

theorem progress_exec (cs : CacheSync V) (command : Command V) (entry : DirtyEntry V) (before after : List WriteID)
    (sources : ∀ x ∈ command.writes, ∃ source, cs.dirtyEntries.lookup source.key = some source ∧ x = source.write)
    (found : cs.dirtyEntries.lookup entry.key = some entry) (rest : ∀ x ∈ before, x ∈ command.writes ∨ x ∈ after)
    (progress : entry.write ∈ before ∨ History.latest WriteID.entity entry.entity cs.applied = some entry.write) :
    entry.write ∈ after ∨ History.latest WriteID.entity entry.entity (cs.applied ++ command.writes) = some entry.write := by
  have same : ∀ x ∈ command.writes, x.entity = entry.entity → x = entry.write := by
    intro x member sameEntity
    obtain ⟨source, stored, rfl⟩ := sources x member
    rw [same_key_of_entity source entry sameEntity, found, Option.some_inj] at stored
    rw [stored]
  by_cases written : entry.write ∈ command.writes
  · exact .inr (History.latest_append_only WriteID.entity _ _ entry.write written same)
  · rcases progress with pending | done
    · rcases rest _ pending with now | later
      · exact absurd now written
      · exact .inl later
    · refine .inr ((History.latest_append_absent WriteID.entity _ _ _ ?_).trans done)
      intro x member sameEntity
      exact written (same x member sameEntity ▸ member)

theorem applied_exec (cs : CacheSync V) (command : Command V) :
    CacheSync.applied { cs with log := cs.log ++ [command] } = cs.applied ++ command.writes := by
  simp [CacheSync.applied]

namespace OnTrack

variable {cs : CacheSync V} {task : FlushTask V} {entries : List (DirtyEntry V)} {command : Command V}
  {commands : List (Command V)} {batches : List (Batch V)} {errs : List String} {selected : Nat}

theorem stored (track : OnTrack cs task) (batch : Batch V) (member : batch ∈ task.batches) (entry : DirtyEntry V)
    (inBatch : entry ∈ batch.entries) : cs.dirtyEntries.lookup entry.key = some entry :=
  (track.carried entry ((FlushTask.mem_entries _ _).mpr ⟨batch, member, inBatch⟩)).1

theorem command_sources (track : OnTrack cs ⟨⟨entries, command :: commands⟩ :: batches, errs, selected⟩) (x : WriteID)
    (member : x ∈ command.writes) : ∃ source, cs.dirtyEntries.lookup source.key = some source ∧ x = source.write := by
  obtain ⟨source, inBatch, rfl⟩ := track.sources _ List.mem_cons_self x
    (List.mem_flatMap.mpr ⟨command, List.mem_cons_self, member⟩)
  exact ⟨source, track.stored _ List.mem_cons_self source inBatch, rfl⟩

theorem progress_elsewhere (track : OnTrack cs task)
    (sources : ∀ x ∈ command.writes, ∃ source, cs.dirtyEntries.lookup source.key = some source ∧ x = source.write)
    (batch : Batch V) (member : batch ∈ task.batches) (entry : DirtyEntry V) (inBatch : entry ∈ batch.entries) :
    entry.write ∈ batch.pending ∨
      History.latest WriteID.entity entry.entity (cs.applied ++ command.writes) = some entry.write :=
  progress_exec cs command entry _ _ sources (track.stored batch member entry inBatch) (fun _ => .inr)
    (track.progress batch member entry inBatch)

end OnTrack

theorem tracked_exec (s : Server V) (number : Nat) (entries : List (DirtyEntry V)) (command : Command V)
    (commands : List (Command V)) (batches : List (Batch V)) (errs : List String) (selected : Nat) (tracked : s.Tracked)
    (present : s.tasks.lookup number = some ⟨⟨entries, command :: commands⟩ :: batches, errs, selected⟩)
    (holding : Holding { s with
      sync := { s.sync with log := s.sync.log ++ [command] }
      tasks := s.tasks.insert number ⟨⟨entries, commands⟩ :: batches, errs, selected⟩ }) :
    Tracked { s with
      sync := { s.sync with log := s.sync.log ++ [command] }
      tasks := s.tasks.insert number ⟨⟨entries, commands⟩ :: batches, errs, selected⟩ } := by
  have current := tracked.tasks number _ present
  refine .of_holding holding tracked.fresh ?_ ?_
  · intro entity last acknowledged
    rw [applied_exec]
    rcases tracked.clean entity last acknowledged with dirty | done
    · exact .inl dirty
    · by_cases touched : ∃ x ∈ command.writes, x.entity = entity
      · obtain ⟨x, member, rfl⟩ := touched
        obtain ⟨source, found, rfl⟩ := current.command_sources x member
        have latest := tracked.fresh _ source found
        rw [show source.write.entity = source.entity from rfl, latest, Option.some_inj] at acknowledged
        exact .inl ⟨source, found, acknowledged⟩
      · refine .inr ((History.latest_append_absent WriteID.entity _ _ _ ?_).trans done)
        exact fun x member same => touched ⟨x, member, same⟩
  · intro other task found
    rw [applied_exec]
    rw [AList.lookup_insert_eq] at found
    split at found
    · cases found
      constructor
      · intro batch member x pending
        rcases List.mem_cons.mp member with rfl | later
        · exact current.sources _ List.mem_cons_self x (List.mem_append_right _ pending)
        · exact current.sources batch (List.mem_cons_of_mem _ later) x pending
      · intro batch member entry inBatch
        rcases List.mem_cons.mp member with rfl | later
        · exact progress_exec s.sync command entry _ _ current.command_sources
            (current.stored _ List.mem_cons_self entry inBatch) (fun x => List.mem_append.mp)
            (current.progress _ List.mem_cons_self entry inBatch)
        · exact current.progress_elsewhere current.command_sources batch (List.mem_cons_of_mem _ later) entry inBatch
    · have track := tracked.tasks other task found
      exact ⟨track.sources, track.progress_elsewhere current.command_sources⟩

theorem tracked_remove (s : Server V) (number : Nat) (entries : List (DirtyEntry V)) (batches : List (Batch V))
    (errs : List String) (selected : Nat) (tracked : s.Tracked)
    (present : s.tasks.lookup number = some ⟨⟨entries, []⟩ :: batches, errs, selected⟩)
    (holding : Holding { s with
      sync := s.sync.removeFlushed entries
      tasks := s.tasks.insert number ⟨batches, errs, selected⟩ }) :
    Tracked { s with sync := s.sync.removeFlushed entries, tasks := s.tasks.insert number ⟨batches, errs, selected⟩ } := by
  have current := tracked.tasks number _ present
  refine .of_holding holding ?_ ?_ ?_
  · intro key entry found
    exact tracked.fresh key entry (removed_origin entries s.sync key entry found).1
  · intro entity last acknowledged
    rcases tracked.clean entity last acknowledged with ⟨entry, found, own⟩ | done
    · by_cases gone : formatDirtyKey entity.entityType entity.entityID ∈ entries.map DirtyEntry.key
      · -- The entry that goes has no statement to come, so it was applied.
        obtain ⟨other, member, same⟩ := List.mem_map.mp gone
        have stored := current.stored _ List.mem_cons_self other member
        rw [same, found, Option.some_inj] at stored
        subst stored
        rcases current.progress _ List.mem_cons_self entry member with never | done
        · cases never
        · have sameEntity : entry.entity = entity := by
            rw [← (History.latest_mem WriteID.entity entity s.acked last acknowledged).2, ← own]
            rfl
          exact .inr (by rw [← own, ← sameEntity]; exact done)
      · exact .inl ⟨entry, by rw [lookup_removed, if_neg gone, found], own⟩
    · exact .inr done
  · intro other task found
    rw [AList.lookup_insert_eq] at found
    split at found
    · cases found
      exact ⟨fun batch member => current.sources batch (List.mem_cons_of_mem _ member),
        fun batch member => current.progress batch (List.mem_cons_of_mem _ member)⟩
    · exact ⟨(tracked.tasks other task found).sources, (tracked.tasks other task found).progress⟩

theorem tracked_finish (s : Server V) (number count : Nat) (tracked : s.Tracked)
    (holding : Holding { s with sync := s.sync.noteFlush count, tasks := s.tasks.erase number }) :
    Tracked { s with sync := s.sync.noteFlush count, tasks := s.tasks.erase number } := by
  refine .of_holding holding tracked.fresh tracked.clean ?_
  intro other task found
  rw [AList.lookup_erase_eq] at found
  split at found
  · cases found
  · exact ⟨(tracked.tasks other task found).sources, (tracked.tasks other task found).progress⟩

def pending (s : Server V) : List WriteID := s.tasks.values.flatMap FlushTask.pending

-- The latest acknowledged write of each entity is in the dirty set, or on its
-- way with nothing older behind it, or the last one that was applied.
def Preserved (s : Server V) : Prop :=
  ∀ entity last, History.latest WriteID.entity entity s.acked = some last →
    (∃ entry, s.sync.dirtyEntries.lookup (formatDirtyKey entity.entityType entity.entityID) = some entry ∧
      entry.write = last) ∨
    (last ∈ s.pending ∧ ∀ other ∈ s.pending, other.entity = entity → last.ticket ≤ other.ticket) ∨
    History.latest WriteID.entity entity s.sync.applied = some last

def DeferredAndAnswered (_ : Server V) : Action V → Prop
  | .write w _ => w.immediate = false
  | .exec _ outcome => outcome = .ok
  | _ => True

theorem Tracked.preserved {s : Server V} (tracked : s.Tracked) : s.Preserved := by
  intro entity last acknowledged
  rcases tracked.clean entity last acknowledged with dirty | applied
  · exact .inl dirty
  · exact .inr (.inr applied)

theorem step_tracked (s : Server V) (action : Action V) (after : Server V) (tracked : s.Tracked)
    (meets : s.DeferredAndAnswered action ∧ s.ReplacesUnselected action) (taken : s.step action = some after) :
    after.Tracked := by
  obtain ⟨answered, condition⟩ := meets
  have holding := step_holding s action after tracked.holding (tracked.replaces_free action condition) taken
  cases step_effect s action after taken with
  | write w env =>
    obtain ⟨_, after, _, wrote, written⟩ := write_written s w env
    rw [wrote] at holding ⊢
    cases written with
    | immediate now => exact absurd (answered.symm.trans now) (by simp)
    | refused =>
      exact ⟨tracked.keyed, tracked.fresh, tracked.clean, fun number task found => { tracked.tasks number task found with },
        tracked.disjoint⟩
    | deferred later synced change => exact tracked_write s w env synced tracked condition change holding
  | beginFlush number orders fresh => exact tracked_begin s number orders tracked
  | executed number entries command commands batches errs selected present =>
    exact tracked_exec s number entries command commands batches errs selected tracked present holding
  | failed number outcome err entries command commands batches errs selected present bad => exact absurd answered bad
  | removed number entries batches errs selected present =>
    exact tracked_remove s number entries batches errs selected tracked present holding
  | finished number errs selected present => exact tracked_finish s number selected tracked holding

theorem acknowledged_write_preserved (config : CacheSyncConfig) (cache : Redis.RedisCache (EntityData V)) (s : Server V)
    (reached : Runs.Reached step (fun s action => s.DeferredAndAnswered action ∧ s.ReplacesUnselected action)
      { sync := { config := config, cache := cache } } s) : s.Preserved :=
  Tracked.preserved (Runs.reached_invariant _ _ Tracked _ s (tracked_start config cache) step_tracked reached)

instance (s : Server V) : (action : Action V) → Decidable (s.DeferredAndAnswered action)
  | .write w _ => inferInstanceAs (Decidable (w.immediate = false))
  | .beginFlush _ _ => inferInstanceAs (Decidable True)
  | .exec _ outcome => inferInstanceAs (Decidable (outcome = .ok))
  | .remove _ => inferInstanceAs (Decidable True)
  | .finish _ => inferInstanceAs (Decidable True)

instance (s : Server V) : (action : Action V) → Decidable (s.ReplacesUnselected action)
  | .write w _ => inferInstanceAs (Decidable (∀ item ∈ w.items,
      ∀ old ∈ s.sync.dirtyEntries.lookup (formatDirtyKey w.entityType item.1),
        old.status = .new ∧ old.entity = ⟨w.entityType, item.1⟩))
  | .beginFlush _ _ => inferInstanceAs (Decidable True)
  | .exec _ _ => inferInstanceAs (Decidable True)
  | .remove _ => inferInstanceAs (Decidable True)
  | .finish _ => inferInstanceAs (Decidable True)

def savedAroundFlush : List (Action String) :=
  [.write (.set "player" "p" (named "a") none) plainEnv, .write (.set "player" "p" (named "b") none) plainEnv,
    .beginFlush 0 (.listed String), .write (.delete "player" "q" none) plainEnv, .exec 0 .ok, .remove 0, .finish 0]

theorem saved_around_flush_preserved :
    ∃ s, Runs.run step { sync := nameSync } savedAroundFlush = some s ∧
      s.acked = [⟨⟨"player", "p"⟩, 0⟩, ⟨⟨"player", "p"⟩, 1⟩, ⟨⟨"player", "q"⟩, 2⟩] ∧
      s.sync.applied = [⟨⟨"player", "p"⟩, 1⟩] ∧ s.sync.dirtyEntries.keys = ["player:q"] ∧ s.Preserved := by
  have observed : (Runs.run step { sync := nameSync } savedAroundFlush).map (fun s =>
      (s.acked, s.sync.applied, s.sync.dirtyEntries.keys)) =
        some ([⟨⟨"player", "p"⟩, 0⟩, ⟨⟨"player", "p"⟩, 1⟩, ⟨⟨"player", "q"⟩, 2⟩], [⟨⟨"player", "p"⟩, 1⟩], ["player:q"]) := by
    decide +kernel
  obtain ⟨s, ran, seen⟩ := Option.map_eq_some_iff.mp observed
  obtain ⟨acked, applied, dirty⟩ : s.acked = _ ∧ s.sync.applied = _ ∧ s.sync.dirtyEntries.keys = _ := by simpa using seen
  refine ⟨s, ran, acked, applied, dirty, ?_⟩
  exact acknowledged_write_preserved nameSync.config nameCache s
    (Runs.reached_of_run step _ _ _ s savedAroundFlush .start (by decide +kernel) ran)

def savedDuringFlush : List (Action String) :=
  [.write (.set "player" "p" (named "a") none) plainEnv, .beginFlush 0 (.listed String),
    .write (.set "player" "p" (named "b") none) plainEnv, .exec 0 .ok, .remove 0, .finish 0]

theorem saved_during_flush_lost :
    Runs.RunMeets step DeferredAndAnswered { sync := nameSync } savedDuringFlush ∧
      ∃ s, Runs.run step { sync := nameSync } savedDuringFlush = some s ∧
        s.acked = [⟨⟨"player", "p"⟩, 0⟩, ⟨⟨"player", "p"⟩, 1⟩] ∧ s.sync.applied = [⟨⟨"player", "p"⟩, 0⟩] ∧
        s.sync.dirtyEntries = ∅ ∧ s.tasks = ∅ ∧ ¬ s.Preserved := by
  have observed : (Runs.run step { sync := nameSync } savedDuringFlush).map (fun s =>
      (s.acked, s.sync.applied, s.sync.dirtyEntries.keys, s.tasks.keys)) =
        some ([⟨⟨"player", "p"⟩, 0⟩, ⟨⟨"player", "p"⟩, 1⟩], [⟨⟨"player", "p"⟩, 0⟩], [], []) := by
    decide +kernel
  obtain ⟨s, ran, seen⟩ := Option.map_eq_some_iff.mp observed
  obtain ⟨acked, applied, dirty, idle⟩ : s.acked = _ ∧ s.sync.applied = _ ∧ s.sync.dirtyEntries.keys = [] ∧ s.tasks.keys = [] := by
    simpa using seen
  have empty : s.sync.dirtyEntries = ∅ := AList.ext (List.map_eq_nil_iff.mp dirty)
  have none : s.tasks = ∅ := AList.ext (List.map_eq_nil_iff.mp idle)
  refine ⟨by decide +kernel, s, ran, acked, applied, empty, none, ?_⟩
  intro preserved
  have last : History.latest WriteID.entity ⟨"player", "p"⟩ s.acked = some ⟨⟨"player", "p"⟩, 1⟩ := by
    rw [acked]
    decide
  rcases preserved _ _ last with ⟨entry, found, _⟩ | ⟨pending, _⟩ | done
  · simp [empty] at found
  · simp [Server.pending, none, AList.values] at pending
  · rw [applied] at done
    exact absurd done (by decide)

end Server

end MmoServer.Db
