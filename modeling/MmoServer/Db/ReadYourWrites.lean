import MmoServer.Db.FlushEffects

set_option autoImplicit false

namespace MmoServer.Db

open Redis

variable {V : Type}

structure Session (V : Type) where
  sync : CacheSync V
  acked : List (EntityKey × Option (EntityData V)) := []

inductive Access (V : Type) where
  | write (w : Write V) (env : Env V)
  | get (env : Env V) (entity : EntityKey)
  | evict (key : String)

def Write.changes (w : Write V) : List (EntityKey × Option (EntityData V)) :=
  w.items.map fun item => (⟨w.entityType, item.1⟩, item.2)

namespace Session

variable (rows : EntityKey → Option (EntityData V))

def read (env : Env V) (entity : EntityKey) (s : Session V) : Except String (EntityData V) × CacheSync V :=
  s.sync.get env (.row (rows entity)) entity.entityType entity.entityID

def step (s : Session V) : Access V → Option (Session V)
  | .write w env =>
    let (result, after) := w.run env s.sync
    some { sync := after
           acked := match result with
             | .ok () => s.acked ++ w.changes
             | .error _ => s.acked }
  | .get env entity => some { s with sync := (s.read rows env entity).2 }
  | .evict key => some { s with sync := { s.sync with cache := s.sync.cache.evict key } }

def owed (entity : EntityKey) : Option (EntityData V) → Except String (EntityData V)
  | some data => .ok data
  | none => .error ("查询实体失败: " ++ CacheSync.notFound entity.entityType entity.entityID)

def Deferred (_ : Session V) : Access V → Prop
  | .write w _ => w.immediate = false
  | _ => True

-- The condition: writes keep to their entity's key, data survive the cache's
-- format, a cache write that reports an error but was executed meets no entry,
-- deletions reach the cache, and a deleted entity has no row to read.
def ReadsBack (s : Session V) : Access V → Prop
  | .write w env => ∀ item ∈ w.items,
      (∀ old ∈ s.sync.dirtyEntries.lookup (formatDirtyKey w.entityType item.1), old.entity = ⟨w.entityType, item.1⟩) ∧
      (∀ data, item.2 = some data → s.sync.cache.Faithful data ∧
        (env.setFault.any Fault.executed = true → s.sync.dirtyEntries.lookup (formatDirtyKey w.entityType item.1) = none)) ∧
      (item.2 = none → ran (env.deleteFault (formatCacheKey w.entityType item.1)) = true ∨
        s.sync.cache.items.lookup (formatCacheKey w.entityType item.1) = none)
  | .get _ entity => ∀ old ∈ s.sync.dirtyEntries.lookup (formatDirtyKey entity.entityType entity.entityID),
      old.data = none → rows entity = none
  | .evict _ => True

end Session

def CacheSync.Agrees (cs : CacheSync V) (key : String) (data : Option (EntityData V)) : Prop :=
  ∀ fault read, cs.cache.get fault key = .ok read → data = some read

theorem agrees_of_kept (cs after : CacheSync V) (key : String) (data : Option (EntityData V))
    (same : ∃ items, after.cache = { cs.cache with items := items })
    (kept : after.cache.items.lookup key = cs.cache.items.lookup key ∨ after.cache.items.lookup key = none)
    (agrees : cs.Agrees key data) : after.Agrees key data := by
  obtain ⟨items, same⟩ := same
  intro fault read found
  obtain ⟨item, present, json, parsed⟩ := RedisCache.get_ok fault key read _ found
  rcases kept with kept | gone
  · refine agrees none read ?_
    have reads : cs.cache.enableJSON = true ∧ cs.cache.codec.unmarshal item.val = .ok read := by
      rw [same] at json parsed
      exact ⟨json, parsed⟩
    simp only [RedisCache.get, ← kept, present, reads.1, reads.2, if_true]
  · rw [gone] at present
    cases present

theorem agrees_of_stored (cs after : CacheSync V) (key : String) (data : EntityData V) (val : String) (expiry : Option Int)
    (same : ∃ items, after.cache = { cs.cache with items := items }) (faithful : cs.cache.Faithful data)
    (serialized : cs.cache.serialize data = .ok val) (stored : after.cache.items.lookup key = some ⟨val, expiry⟩) :
    after.Agrees key (some data) := by
  obtain ⟨items, same⟩ := same
  intro fault read found
  obtain ⟨item, present, json, parsed⟩ := RedisCache.get_ok fault key read _ found
  rw [stored, Option.some_inj] at present
  subst present
  rw [same] at json parsed
  rw [faithful val read serialized json parsed]

theorem CacheSync.remember_cases (env : Env V) (key : String) (data : EntityData V) (cs : CacheSync V) :
    cs.remember env key data = cs ∨ ∃ val expiry, cs.cache.serialize data = .ok val ∧
      cs.remember env key data = { cs with cache := { cs.cache with items := cs.cache.items.insert key ⟨val, expiry⟩ } } := by
  rw [CacheSync.remember]
  rcases RedisCache.set_cases env.setFault key data cs.config.cacheTTL cs.cache with ⟨_, failed⟩ | ⟨val, serialized, stored, _⟩
  · exact .inl (by rw [failed])
  · exact .inr ⟨val, _, serialized, by rw [stored]⟩

namespace Session

structure Current (s : Session V) : Prop where
  keyed : s.sync.WellKeyed
  stored : ∀ entity data, History.latest Prod.fst entity s.acked = some (entity, data) →
    ∃ entry, s.sync.dirtyEntries.lookup (formatDirtyKey entity.entityType entity.entityID) = some entry ∧
      entry.entity = entity ∧ entry.data = data
  agrees : ∀ key entry, s.sync.dirtyEntries.lookup key = some entry → s.sync.Agrees ("entity:" ++ key) entry.data
  faithful : ∀ key entry data, s.sync.dirtyEntries.lookup key = some entry → entry.data = some data →
    s.sync.cache.Faithful data

theorem current_start (config : CacheSyncConfig) (cache : RedisCache (EntityData V)) :
    Current { sync := { config := config, cache := cache } } where
  keyed := by intro key entry found; simp at found
  stored := by intro entity data found; simp at found
  agrees := by intro key entry found; simp at found
  faithful := by intro key entry data found; simp at found

variable (rows : EntityKey → Option (EntityData V)) (s : Session V) (env : Env V) (entity : EntityKey)

theorem current_write (w : Write V) (env : Env V) (after : CacheSync V) (current : s.Current)
    (condition : s.ReadsBack rows (.write w env)) (change : w.Deferred env s.sync after) :
    Current { sync := after, acked := s.acked ++ w.changes } := by
  have codec : ∀ data, s.sync.cache.Faithful data → after.cache.Faithful data := by
    intro data faithful
    obtain ⟨items, same⟩ := change.cached.items
    rw [same]
    exact faithful
  refine ⟨well_keyed_deferred env w s.sync after change current.keyed, ?_, ?_, ?_⟩
  · intro entity data found
    by_cases written : ∃ item ∈ w.items, ⟨w.entityType, item.1⟩ = entity
    · obtain ⟨item, member, rfl⟩ := written
      have own : ((⟨w.entityType, item.1⟩ : EntityKey), item.2) ∈ w.changes := List.mem_map.mpr ⟨item, member, rfl⟩
      have last := History.latest_append_only Prod.fst s.acked w.changes _ own (by
        intro other also same
        obtain ⟨second, listed, rfl⟩ := List.mem_map.mp also
        rw [Write.items_unique w second item listed member (by simpa using same)])
      rw [last, Option.some_inj, Prod.mk.injEq] at found
      exact ⟨_, change.stored item member, rfl, found.2⟩
    · have foreign : ∀ item ∈ w.items, ⟨w.entityType, item.1⟩ ≠ entity := fun item member same => written ⟨item, member, same⟩
      rw [History.latest_append_absent Prod.fst entity s.acked w.changes (by
        intro event member
        obtain ⟨item, listed, rfl⟩ := List.mem_map.mp member
        exact foreign item listed)] at found
      obtain ⟨entry, present, own, kept⟩ := current.stored entity data found
      refine ⟨entry, ?_, own, kept⟩
      rw [change.kept _ ?_, present]
      intro item member same
      refine foreign item member ?_
      rw [← own, (condition item member).1 entry (by rw [← same] at present; exact present)]
  · intro key entry found
    rcases change.origin key entry found with ⟨item, member, rfl, rfl⟩ | ⟨old, absent⟩
    · rw [show "entity:" ++ (w.entry env item).key = formatCacheKey w.entityType item.1 from (cache_key_eq _ _).symm]
      cases kind : item.2 with
      | some data =>
        obtain ⟨val, expiry, serialized, present⟩ := change.cached.stored item member data kind
        rw [show (w.entry env item).data = some data from kind]
        exact agrees_of_stored s.sync after _ data val expiry change.cached.items ((condition item member).2.1 data kind).1 serialized present
      | none =>
        intro fault read answered
        obtain ⟨stale, present, _⟩ := RedisCache.get_ok fault _ read _ answered
        rw [change.cached.gone item member kind ((condition item member).2.2 kind)] at present
        cases present
    · refine agrees_of_kept s.sync after _ _ change.cached.items (.inl (change.cached.kept _ ?_)) (current.agrees key entry old)
      intro item member same
      rw [cache_key_eq, String.append_right_inj] at same
      exact absent item member same
  · intro key entry data found own
    rcases change.origin key entry found with ⟨item, member, rfl, _⟩ | ⟨old, _⟩
    · exact codec data ((condition item member).2.1 data own).1
    · exact codec data (current.faithful key entry data old own)

theorem current_of_same (s after : Session V) (current : s.Current) (dirty : after.sync.dirtyEntries = s.sync.dirtyEntries)
    (acked : after.acked = s.acked) (same : ∃ items, after.sync.cache = { s.sync.cache with items := items })
    (agrees : ∀ key entry, s.sync.dirtyEntries.lookup key = some entry → s.sync.Agrees ("entity:" ++ key) entry.data →
      after.sync.Agrees ("entity:" ++ key) entry.data) : after.Current := by
  obtain ⟨items, same⟩ := same
  refine ⟨?_, ?_, ?_, ?_⟩
  · rw [CacheSync.WellKeyed, dirty]
    exact current.keyed
  · rw [acked, dirty]
    exact current.stored
  · rw [dirty]
    exact fun key entry found => agrees key entry found (current.agrees key entry found)
  · rw [dirty, same]
    exact current.faithful

theorem current_refused (w : Write V) (env : Env V) (cache : RedisCache (EntityData V)) (current : s.Current)
    (condition : s.ReadsBack rows (.write w env)) (refused : w.Refused env s.sync cache) :
    Current { s with sync := { s.sync with cache := cache } } := by
  rcases refused with rfl | ⟨executed, stores, cached⟩
  · exact current
  · refine current_of_same s _ current rfl rfl cached.items ?_
    intro key entry found agrees
    refine agrees_of_kept s.sync _ _ _ cached.items (.inl (cached.kept _ ?_)) agrees
    intro item member same
    rw [cache_key_eq, String.append_right_inj] at same
    obtain ⟨data, stored⟩ := stores item member
    have absent := ((condition item member).2.1 data stored).2 executed
    rw [same, found] at absent
    cases absent

theorem current_remember (data : EntityData V) (current : s.Current)
    (known : ∀ entry, s.sync.dirtyEntries.lookup (formatDirtyKey entity.entityType entity.entityID) = some entry → entry.data = some data) :
    Current { s with sync := s.sync.remember env (formatCacheKey entity.entityType entity.entityID) data } := by
  rcases CacheSync.remember_cases env (formatCacheKey entity.entityType entity.entityID) data s.sync
    with unchanged | ⟨val, expiry, serialized, stored⟩
  · rw [unchanged]
    exact current
  · rw [stored]
    refine current_of_same s _ current rfl rfl ⟨_, rfl⟩ ?_
    intro key entry found agrees
    by_cases same : key = formatDirtyKey entity.entityType entity.entityID
    · rw [same] at found
      rw [same, ← cache_key_eq, known entry found]
      exact agrees_of_stored s.sync _ _ data val expiry ⟨_, rfl⟩ (current.faithful _ entry data found (known entry found))
        serialized (by simp)
    · refine agrees_of_kept s.sync _ _ _ ⟨_, rfl⟩ (.inl ?_) agrees
      have different : "entity:" ++ key ≠ formatCacheKey entity.entityType entity.entityID := by
        rw [cache_key_eq, ne_eq, String.append_right_inj]
        exact same
      simp [different]

theorem current_get (current : s.Current) (condition : s.ReadsBack rows (.get env entity)) :
    Current { s with sync := (s.read rows env entity).2 } := by
  have counted : ∀ stats, Current { s with sync := { s.sync with stats := stats } } := fun stats =>
    ⟨current.keyed, current.stored, current.agrees, current.faithful⟩
  simp only [read, CacheSync.get]
  split
  · exact counted _
  · split
    · rename_i data found
      refine current_remember s env entity data current ?_
      intro entry present
      simpa [present] using found
    · rename_i absent
      split
      · exact counted _
      · exact counted _
      · exact counted _
      · -- The row is remembered only where the dirty set has no entry.
        rename_i row answered
        refine current_remember { s with sync := { s.sync with stats := _ } } env entity row (counted _) ?_
        intro entry present
        have deleted : entry.data = none := by simpa [show s.sync.dirtyEntries.lookup _ = some entry from present] using absent
        rw [QueryOutcome.row.injEq, condition entry present deleted] at answered
        cases answered

theorem step_current (access : Access V) (after : Session V) (current : s.Current)
    (meets : s.Deferred access ∧ s.ReadsBack rows access) (taken : s.step rows access = some after) : after.Current := by
  obtain ⟨later, condition⟩ := meets
  cases access with
  | write w env =>
    rcases Write.run_deferred env w s.sync later with ⟨err, cache, failed, refused⟩ | ⟨synced, stored, change⟩
    · simp only [step, failed] at taken
      cases taken
      exact current_refused rows s w env cache current condition refused
    · simp only [step, stored] at taken
      cases taken
      exact current_write rows s w env synced current condition change
  | get env entity =>
    cases taken
    exact current_get rows s env entity current condition
  | evict key =>
    cases taken
    refine current_of_same s _ current rfl rfl ⟨_, rfl⟩ ?_
    intro other entry _ agrees
    refine agrees_of_kept s.sync _ _ _ ⟨_, rfl⟩ ?_ agrees
    by_cases same : "entity:" ++ other = key <;> simp [RedisCache.evict, same]

theorem reads_own_writes (rows : EntityKey → Option (EntityData V)) (config : CacheSyncConfig)
    (cache : RedisCache (EntityData V)) (s : Session V)
    (reached : Runs.Reached (step rows) (fun s access => s.Deferred access ∧ s.ReadsBack rows access)
      { sync := { config := config, cache := cache } } s)
    (env : Env V) (entity : EntityKey) (data : Option (EntityData V))
    (last : History.latest Prod.fst entity s.acked = some (entity, data)) (condition : s.ReadsBack rows (.get env entity)) :
    (s.read rows env entity).1 = owed entity data := by
  have current := Runs.reached_invariant _ _ Current _ s (current_start config cache) (step_current rows) reached
  obtain ⟨entry, found, _, rfl⟩ := current.stored entity data last
  simp only [read, CacheSync.get]
  split
  · rename_i answer cached
    rw [cache_key_eq] at cached
    rw [current.agrees _ entry found _ answer cached, owed]
  · rw [found, Option.bind_some]
    cases kind : entry.data with
    | some dirtyData => rfl
    | none => simp only [condition entry found kind, owed]

def saveAndDelete : List (Access String) :=
  [.write (.set "player" "p" (named "a") none) plainEnv, .get plainEnv ⟨"player", "p"⟩, .evict "entity:player:p",
    .write (.delete "player" "q" none) plainEnv]

theorem save_and_delete_read_back :
    ∃ s, Runs.run (step fun _ => none) { sync := nameSync } saveAndDelete = some s ∧
      (s.read (fun _ => none) plainEnv ⟨"player", "p"⟩).1 = .ok (named "a") ∧
      (s.read (fun _ => none) plainEnv ⟨"player", "q"⟩).1 = .error "查询实体失败: 操作失败: 实体 player:q 不存在" := by
  have faithful : nameCache.Faithful (named "a") := by
    intro val read serialized _ parsed
    cases serialized
    cases parsed
    rfl
  have meets : Runs.RunMeets (step fun _ => none) (fun s access => s.Deferred access ∧ s.ReadsBack (fun _ => none) access)
      { sync := nameSync } saveAndDelete := by
    refine ⟨⟨rfl, ?_⟩, ?_⟩
    · intro item member
      rw [List.mem_singleton.mp member]
      exact ⟨nofun, fun data same => ⟨Option.some.inj same ▸ faithful, nofun⟩, nofun⟩
    · rintro _ ⟨⟩
      refine ⟨⟨trivial, fun _ _ _ => rfl⟩, ?_⟩
      rintro _ ⟨⟩
      refine ⟨⟨trivial, trivial⟩, ?_⟩
      rintro _ ⟨⟩
      refine ⟨⟨rfl, ?_⟩, fun _ _ => trivial⟩
      intro item member
      rw [List.mem_singleton.mp member]
      exact ⟨nofun, nofun, fun _ => .inl rfl⟩
  have reached := Runs.reached_of_run _ _ _ _ _ saveAndDelete .start meets rfl
  refine ⟨_, rfl, ?_, ?_⟩
  · exact reads_own_writes (fun _ => none) defaultCacheSyncConfig nameCache _ reached plainEnv ⟨"player", "p"⟩ (some (named "a"))
      rfl fun _ _ _ => rfl
  · exact reads_own_writes (fun _ => none) defaultCacheSyncConfig nameCache _ reached plainEnv ⟨"player", "q"⟩ none
      rfl fun _ _ _ => rfl

def deleteThenGet : List (Access String) := [.write (.delete "player" "p" none) plainEnv]

theorem deleted_player_returned :
    Runs.RunMeets (step fun _ => some (named "a")) Deferred { sync := nameSync } deleteThenGet ∧
      ∃ s, Runs.run (step fun _ => some (named "a")) { sync := nameSync } deleteThenGet = some s ∧
        History.latest Prod.fst ⟨"player", "p"⟩ s.acked = some (⟨"player", "p"⟩, none) ∧
        (s.read (fun _ => some (named "a")) plainEnv ⟨"player", "p"⟩).1 = .ok (named "a") :=
  ⟨⟨rfl, fun _ _ => trivial⟩, _, rfl, rfl, rfl⟩

end Session

end MmoServer.Db
