import MmoServer.Db.FlushOutcome

set_option autoImplicit false

namespace MmoServer.Db

open History

variable {V : Type}

abbrev Call (V : Type) := Write V × Env V

def Server.call (s : Server V) (call : Call V) : Option (Server V) :=
  match (call.1.run { call.2 with ticket := s.next } s.sync).1 with
  | .ok () => some (s.write call.1 call.2)
  | .error _ => none

def WriteID.dirtyKey (x : WriteID) : String := formatDirtyKey x.entity.entityType x.entity.entityID

section Histories

variable (kind : Write V → Bool) (calls : List (Call V))

def writesOf : List WriteID := (calls.zipIdx.filter fun pair => kind pair.1.1).flatMap fun pair => pair.1.1.writeIDs pair.2

def programWrites : List WriteID := writesOf (fun _ => true) calls

def deferredWrites : List WriteID := writesOf (fun w => !w.immediate) calls

def immediateWrites : List WriteID := writesOf Write.immediate calls

def dirtyCount : Nat := ((deferredWrites calls).map WriteID.dirtyKey).dedup.length

theorem writes_of_append (call : Call V) :
    writesOf kind (calls ++ [call]) = writesOf kind calls ++ if kind call.1 then call.1.writeIDs calls.length else [] := by
  rw [writesOf, List.zipIdx_append, List.filter_append, List.flatMap_append]
  by_cases counted : kind call.1 = true <;> simp [writesOf, counted]

theorem dirty_count_append (call : Call V) : dirtyCount calls ≤ dirtyCount (calls ++ [call]) := by
  refine (List.subperm_of_subset (List.nodup_dedup _) fun key member => ?_).length_le
  rw [List.mem_dedup] at member ⊢
  rw [deferredWrites, writes_of_append, List.map_append]
  exact List.mem_append_left _ member

theorem size_le_dirty_count (dirty : GoMap String (DirtyEntry V)) (latest : ∀ key, (dirty.lookup key).map DirtyEntry.write =
    latest WriteID.dirtyKey key (deferredWrites calls)) : dirty.size ≤ dirtyCount calls := by
  have keys : dirty.keys.length = dirty.size := List.length_map _
  rw [← keys]
  refine (List.subperm_of_subset dirty.keys_nodup fun key member => ?_).length_le
  obtain ⟨entry, found⟩ := Option.isSome_iff_exists.mp (AList.lookup_isSome.mpr member)
  have last := latest key
  rw [found, Option.map_some] at last
  obtain ⟨written, own⟩ := latest_mem _ _ _ _ last.symm
  exact List.mem_dedup.mpr (List.mem_map.mpr ⟨_, written, own⟩)

theorem mem_writes_of (x : WriteID) :
    x ∈ writesOf kind calls ↔ ∃ call, calls[x.ticket]? = some call ∧ kind call.1 = true ∧ x ∈ call.1.writeIDs x.ticket := by
  simp only [writesOf, List.mem_flatMap, List.mem_filter]
  constructor
  · rintro ⟨⟨call, ticket⟩, ⟨listed, counted⟩, written⟩
    obtain ⟨item, member, rfl⟩ := List.mem_map.mp written
    exact ⟨call, List.mem_zipIdx_iff_getElem?.mp listed, counted, written⟩
  · rintro ⟨call, listed, counted, written⟩
    exact ⟨(call, x.ticket), ⟨List.mem_zipIdx_iff_getElem?.mpr listed, counted⟩, written⟩

theorem mem_program (x : WriteID) : x ∈ programWrites calls ↔ x ∈ deferredWrites calls ∨ x ∈ immediateWrites calls := by
  simp only [programWrites, deferredWrites, immediateWrites, mem_writes_of, ← exists_or]
  refine exists_congr fun call => ?_
  cases call.1.immediate <;> simp

theorem not_both (x : WriteID) (later : x ∈ deferredWrites calls) (now : x ∈ immediateWrites calls) : False := by
  obtain ⟨call, listed, deferred, _⟩ := (mem_writes_of _ calls x).mp later
  obtain ⟨other, same, immediate, _⟩ := (mem_writes_of _ calls x).mp now
  rw [listed, Option.some_inj] at same
  subst same
  simp [immediate] at deferred

theorem latest_immediate (entity : EntityKey) (last : WriteID)
    (found : latest WriteID.entity entity (programWrites calls) = some last) (now : last ∉ deferredWrites calls) :
    latest WriteID.entity entity (immediateWrites calls) = some last := by
  induction calls using List.reverseRecOn with
  | nil => simp [programWrites, writesOf] at found
  | append_singleton calls call ih =>
    simp only [programWrites, deferredWrites, immediateWrites, writes_of_append, if_true, latest_append] at *
    cases recent : latest WriteID.entity entity (call.1.writeIDs calls.length) with
    | some newest =>
      rw [recent, Option.some_or, Option.some_inj] at found
      subst found
      cases kind : call.1.immediate with
      | true => simp [recent]
      | false =>
        have written := (latest_mem WriteID.entity entity _ newest recent).1
        simp [kind, written] at now
    | none =>
      rw [recent, Option.none_or] at found
      have before := ih found fun member => now (List.mem_append_left _ member)
      cases kind : call.1.immediate with
      | true => simp [recent, before]
      | false => simp [before]

end Histories

namespace Server

structure Follows (calls : List (Call V)) (config : CacheSyncConfig) (s : Server V) : Prop where
  keyed : s.sync.WellKeyed
  eligible : ∀ key entry, s.sync.dirtyEntries.lookup key = some entry → entry.status = .new
  dirty : ∀ key, (s.sync.dirtyEntries.lookup key).map DirtyEntry.write =
    latest WriteID.dirtyKey key (deferredWrites calls)
  applied : ∀ entity, latest WriteID.entity entity s.sync.applied =
    latest WriteID.entity entity (immediateWrites calls)
  acked : s.acked = programWrites calls
  next : s.next = calls.length
  configured : s.sync.config = config
  quiet : (dirtyCount calls : Int) < config.maxDirtySize → s.sync.spawned = 0

variable (calls : List (Call V)) (config : CacheSyncConfig) (s : Server V)

theorem follows_start (cache : Redis.RedisCache (EntityData V)) :
    Follows [] config { sync := { config := config, cache := cache } } where
  keyed := by intro key entry found; simp at found
  eligible := by intro key entry found; simp at found
  dirty _ := rfl
  applied _ := rfl
  acked := rfl
  next := rfl
  configured := rfl
  quiet _ := rfl

theorem follows_immediate (w : Write V) (env : Env V) (follows : s.Follows calls config) (now : w.immediate = true)
    (ok : (w.run { env with ticket := s.next } s.sync).1 = .ok ()) : (s.write w env).Follows (calls ++ [(w, env)]) config := by
  obtain ⟨cache, applied, changed, all⟩ := Write.run_immediate { env with ticket := s.next } w s.sync now
  have run : w.run { env with ticket := s.next } s.sync =
      (.ok (), { s.sync with cache := cache, log := s.sync.log ++ w.commands { env with ticket := s.next } }) := by
    rw [← all ok, ← changed, ← ok]
  rw [write, run]
  have before := dirty_count_append calls (w, env)
  refine ⟨follows.keyed, follows.eligible, ?_, ?_, ?_, ?_, follows.configured, fun few => follows.quiet (by omega)⟩
  · intro key
    simpa [deferredWrites, writes_of_append, now] using follows.dirty key
  · intro entity
    have same : ∀ x, x ∈ (w.commands { env with ticket := s.next }).flatMap Command.writes ↔ x ∈ w.writeIDs calls.length := by
      rw [← follows.next]
      exact Write.mem_commands { env with ticket := s.next } w
    simp only [CacheSync.applied, List.flatMap_append, immediateWrites, writes_of_append, now, if_true, latest_append]
    rw [latest_congr WriteID.entity entity _ _ same fun one first two second => Write.write_ids_only w _ one two first second]
    exact congrArg _ (follows.applied entity)
  · simp [programWrites, writes_of_append, follows.acked, follows.next]
  · simp [follows.next]

theorem follows_deferred (w : Write V) (env : Env V) (follows : s.Follows calls config) (later : w.immediate = false)
    (ok : (w.run { env with ticket := s.next } s.sync).1 = .ok ()) : (s.write w env).Follows (calls ++ [(w, env)]) config := by
  rcases Write.run_deferred { env with ticket := s.next } w s.sync later with ⟨err, _, failed, _⟩ | ⟨after, run, change⟩
  · rw [failed] at ok
    cases ok
  rw [write, run]
  have dirty : ∀ key, (after.dirtyEntries.lookup key).map DirtyEntry.write =
      latest WriteID.dirtyKey key (deferredWrites (calls ++ [(w, env)])) := by
    intro key
    simp only [deferredWrites, writes_of_append, later, Bool.not_false, if_true]
    by_cases written : ∃ item ∈ w.items, (w.entry { env with ticket := s.next } item).key = key
    · obtain ⟨item, member, rfl⟩ := written
      rw [change.stored item member]
      refine (latest_append_only WriteID.dirtyKey _ _ (w.entry { env with ticket := s.next } item).write ?_ ?_).symm
      · rw [← follows.next]
        exact List.mem_map.mpr ⟨item, member, rfl⟩
      · intro other also same
        obtain ⟨second, _, rfl⟩ := List.mem_map.mp also
        have ids : second.1 = item.1 := format_dirty_key_inj w.entityType _ _ same
        rw [ids, ← follows.next]
        rfl
    · rw [change.kept key fun item member same => written ⟨item, member, same⟩, follows.dirty key]
      refine (latest_append_absent WriteID.dirtyKey _ _ _ ?_).symm
      intro x member same
      obtain ⟨item, inItems, rfl⟩ := List.mem_map.mp member
      exact written ⟨item, inItems, same⟩
  refine ⟨well_keyed_deferred _ w s.sync after change follows.keyed, ?_, dirty, ?_, ?_, ?_, change.config.trans follows.configured, ?_⟩
  · intro key entry found
    rcases change.origin key entry found with ⟨item, _, rfl, _⟩ | ⟨old, _⟩
    · rfl
    · exact follows.eligible key entry old
  · intro entity
    simpa [immediateWrites, writes_of_append, later, CacheSync.applied, change.log] using follows.applied entity
  · simp [programWrites, writes_of_append, follows.acked, follows.next]
  · simp [follows.next]
  · intro few
    have before := dirty_count_append calls (w, env)
    have size := size_le_dirty_count (calls ++ [(w, env)]) after.dirtyEntries dirty
    rcases change.quiet with same | reached
    · exact same.trans (follows.quiet (by omega))
    · rw [follows.configured] at reached
      omega

theorem run_follows (cache : Redis.RedisCache (EntityData V)) (calls : List (Call V)) (s : Server V)
    (ran : Runs.run call { sync := { config := config, cache := cache } } calls = some s) : s.Follows calls config := by
  induction calls using List.reverseRecOn generalizing s with
  | nil =>
    cases ran
    exact follows_start config cache
  | append_singleton calls last ih =>
    rw [Runs.run_append, Option.bind_eq_some_iff] at ran
    obtain ⟨before, first, final⟩ := ran
    have follows := ih before first
    simp only [Runs.run, call, Option.bind_fun_some] at final
    split at final
    · cases final
      cases kind : last.1.immediate with
      | true => exact follows_immediate calls _ before last.1 last.2 follows kind ‹_›
      | false => exact follows_deferred calls _ before last.1 last.2 follows kind ‹_›
    · cases final

section

variable {calls : List (Call V)} {config : CacheSyncConfig} {s : Server V} (follows : s.Follows calls config)
  (sized : 1 ≤ config.batchSize) (below : (dirtyCount calls : Int) + config.batchSize - 1 < 2 ^ 63)

include follows sized below

theorem Follows.fits : s.sync.BatchesFit := by
  intro entry _
  have size := size_le_dirty_count calls s.sync.dirtyEntries follows.dirty
  have values : s.sync.dirtyEntries.values.length = s.sync.dirtyEntries.size := List.length_map _
  have selected := (List.length_filter_le (fun dirty : DirtyEntry V => decide (dirty.entityType = entry.entityType))
    s.sync.eligible).trans (List.length_filter_le _ s.sync.dirtyEntries.values)
  rw [TypeFits, follows.configured]
  refine ⟨sized, ?_⟩
  rw [ofType]
  omega

theorem Follows.flushed (env : Env V) (answered : ∀ outcome ∈ env.outcomes, outcome = .ok) (entity : EntityKey) :
    (∃ left, latest WriteID.dirtyKey (formatDirtyKey entity.entityType entity.entityID) (deferredWrites calls) = some left ∧
        left.entity = entity ∧ latest WriteID.entity entity (s.sync.flush env).2.applied = some left) ∨
      ((∀ left ∈ latest WriteID.dirtyKey (formatDirtyKey entity.entityType entity.entityID) (deferredWrites calls),
        left.entity ≠ entity) ∧
        latest WriteID.entity entity (s.sync.flush env).2.applied =
          latest WriteID.entity entity (immediateWrites calls)) := by
  obtain ⟨_, _, commands, log, writes⟩ := CacheSync.flush_of_eligible env s.sync follows.keyed (follows.fits sized below)
    follows.eligible answered
  have applied : (s.sync.flush env).2.applied = s.sync.applied ++ commands.flatMap Command.writes := by
    rw [CacheSync.applied, log, List.flatMap_append]
    rfl
  rw [applied, ← follows.dirty]
  have own : ∀ x ∈ commands.flatMap Command.writes, x.entity = entity →
      ∃ entry, s.sync.dirtyEntries.lookup (formatDirtyKey entity.entityType entity.entityID) = some entry ∧ x = entry.write := by
    intro x member same
    obtain ⟨key, entry, found, rfl⟩ := (writes x).mp member
    refine ⟨entry, ?_, rfl⟩
    rw [← same, ← found, ← follows.keyed key entry found]
    rfl
  by_cases left : ∃ entry, s.sync.dirtyEntries.lookup (formatDirtyKey entity.entityType entity.entityID) = some entry ∧
      entry.entity = entity
  · obtain ⟨entry, found, rfl⟩ := left
    refine .inl ⟨entry.write, by rw [found]; rfl, rfl, ?_⟩
    refine latest_append_only WriteID.entity _ _ entry.write ((writes _).mpr ⟨_, entry, found, rfl⟩) ?_
    intro other member same
    obtain ⟨second, also, rfl⟩ := own other member same
    rw [found, Option.some_inj] at also
    rw [also]
  · refine .inr ⟨?_, ?_⟩
    · intro x stored same
      obtain ⟨entry, found, rfl⟩ := Option.map_eq_some_iff.mp stored
      exact left ⟨entry, found, same⟩
    · rw [latest_append_absent WriteID.entity, follows.applied]
      intro x member same
      obtain ⟨entry, found, rfl⟩ := own x member same
      exact left ⟨entry, found, same⟩

end

def LastWins (env : Env V) (s : Server V) : Prop :=
  ∀ entity, latest WriteID.entity entity (s.sync.flush env).2.applied = latest WriteID.entity entity s.acked

end Server

-- What the deferred calls leave under the key of each entity's last write: the
-- write itself if it was deferred, and else nothing of that entity.
def LeavesNothingStale (calls : List (Call V)) : Prop :=
  ∀ last ∈ programWrites calls, latest WriteID.entity last.entity (programWrites calls) = some last →
    (last ∈ deferredWrites calls → latest WriteID.dirtyKey last.dirtyKey (deferredWrites calls) = some last) ∧
    (last ∉ deferredWrites calls → ∀ left ∈ latest WriteID.dirtyKey last.dirtyKey (deferredWrites calls),
      left.entity ≠ last.entity)

namespace Server

-- With fewer dirty keys than MaxDirtySize no call starts a Flush of its own.
theorem last_write_wins_iff (config : CacheSyncConfig) (cache : Redis.RedisCache (EntityData V)) (calls : List (Call V))
    (few : (dirtyCount calls : Int) < config.maxDirtySize) (sized : 1 ≤ config.batchSize)
    (below : (dirtyCount calls : Int) + config.batchSize - 1 < 2 ^ 63) (s : Server V)
    (ran : Runs.run call { sync := { config := config, cache := cache } } calls = some s) (env : Env V)
    (answered : ∀ outcome ∈ env.outcomes, outcome = .ok) :
    s.sync.spawned = 0 ∧ (s.LastWins env ↔ LeavesNothingStale calls) := by
  have follows := run_follows config cache calls s ran
  have flushed := follows.flushed sized below env answered
  refine ⟨follows.quiet few, ?_⟩
  rw [LastWins, follows.acked]
  constructor
  · intro wins last _ found
    have final := (wins last.entity).trans found
    rcases flushed last.entity with ⟨left, stored, _, seen⟩ | ⟨foreign, seen⟩
    · -- The Flush has applied what was left, so this is the last write.
      rw [seen, Option.some_inj] at final
      subst final
      exact ⟨fun _ => stored, fun now => absurd (latest_mem _ _ _ _ stored).1 now⟩
    · rw [seen] at final
      exact ⟨fun later => (not_both calls last later (latest_mem _ _ _ _ final).1).elim, fun _ => foreign⟩
  · intro condition entity
    cases found : latest WriteID.entity entity (programWrites calls) with
    | none =>
      have unwritten := (latest_eq_none _ _ _).mp found
      rcases flushed entity with ⟨left, stored, same, _⟩ | ⟨_, seen⟩
      · exact absurd same (unwritten left ((mem_program calls left).mpr (.inl (latest_mem _ _ _ _ stored).1)))
      · rw [seen, latest_eq_none]
        exact fun x member => unwritten x ((mem_program calls x).mpr (.inr member))
    | some last =>
      obtain ⟨written, rfl⟩ := latest_mem _ _ _ _ found
      obtain ⟨deferred, immediate⟩ := condition last written found
      rcases flushed last.entity with ⟨left, stored, same, seen⟩ | ⟨foreign, seen⟩
      · by_cases later : last ∈ deferredWrites calls
        · exact seen.trans (stored.symm.trans (deferred later))
        · exact absurd same (immediate later left stored)
      · by_cases later : last ∈ deferredWrites calls
        · exact absurd rfl (foreign last (deferred later))
        · rw [seen, latest_immediate calls last.entity last found later]

instance (calls : List (Call V)) : Decidable (LeavesNothingStale calls) :=
  inferInstanceAs (Decidable (∀ last ∈ programWrites calls,
    latest WriteID.entity last.entity (programWrites calls) = some last → (_ → _) ∧ (_ → _)))

def now : Option WriteOptions := some { immediate := true }

def immediateFirst : List (Call String) :=
  [(.set "player" "p" (named "a") now, plainEnv), (.set "player" "p" (named "b") none, plainEnv),
    (.delete "player" "p" none, plainEnv), (.set "player" "q" (named "c") now, plainEnv)]

theorem immediate_first_wins :
    ∃ s, Runs.run call { sync := nameSync } immediateFirst = some s ∧
      (s.sync.flush plainEnv).2.applied = [⟨⟨"player", "p"⟩, 0⟩, ⟨⟨"player", "q"⟩, 3⟩, ⟨⟨"player", "p"⟩, 2⟩] ∧
      s.LastWins plainEnv := by
  have observed : (Runs.run call { sync := nameSync } immediateFirst).map (fun s => (s.sync.flush plainEnv).2.applied) =
      some [⟨⟨"player", "p"⟩, 0⟩, ⟨⟨"player", "q"⟩, 3⟩, ⟨⟨"player", "p"⟩, 2⟩] := by
    decide +kernel
  obtain ⟨s, ran, applied⟩ := Option.map_eq_some_iff.mp observed
  have wins := last_write_wins_iff defaultCacheSyncConfig nameCache immediateFirst (by decide +kernel) (by decide)
    (by decide +kernel) s ran plainEnv (by simp [plainEnv])
  exact ⟨s, ran, applied, wins.2.mpr (by decide +kernel)⟩

def immediateLast : List (Call String) :=
  [(.set "player" "p" (named "a") none, plainEnv), (.set "player" "p" (named "b") now, plainEnv)]

theorem immediate_last_overwritten :
    ∃ s, Runs.run call { sync := nameSync } immediateLast = some s ∧ s.acked = [⟨⟨"player", "p"⟩, 0⟩, ⟨⟨"player", "p"⟩, 1⟩] ∧
      (s.sync.flush plainEnv).1 = .ok ∧ (s.sync.flush plainEnv).2.applied = [⟨⟨"player", "p"⟩, 1⟩, ⟨⟨"player", "p"⟩, 0⟩] ∧
      ¬ s.LastWins plainEnv := by
  have observed : (Runs.run call { sync := nameSync } immediateLast).map (fun s =>
      (s.acked, (s.sync.flush plainEnv).1, (s.sync.flush plainEnv).2.applied)) =
        some ([⟨⟨"player", "p"⟩, 0⟩, ⟨⟨"player", "p"⟩, 1⟩], .ok, [⟨⟨"player", "p"⟩, 1⟩, ⟨⟨"player", "p"⟩, 0⟩]) := by
    decide +kernel
  obtain ⟨s, ran, seen⟩ := Option.map_eq_some_iff.mp observed
  rw [Prod.mk.injEq, Prod.mk.injEq] at seen
  obtain ⟨acked, ok, applied⟩ := seen
  refine ⟨s, ran, acked, ok, applied, ?_⟩
  intro wins
  have last := wins ⟨"player", "p"⟩
  rw [acked, applied] at last
  exact absurd last (by decide)

end Server

end MmoServer.Db
