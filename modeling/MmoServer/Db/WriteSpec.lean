import MmoServer.Db.Flush

set_option autoImplicit false

namespace MmoServer.Db

open Redis

variable {V : Type}

theorem format_dirty_key_inj (entityType first second : String)
    (same : formatDirtyKey entityType first = formatDirtyKey entityType second) : first = second :=
  (String.append_right_inj (entityType ++ ":")).mp same

theorem cache_key_eq (entityType entityID : String) :
    formatCacheKey entityType entityID = "entity:" ++ formatDirtyKey entityType entityID := by
  simp [formatCacheKey, formatDirtyKey, String.append_assoc]

theorem cache_key_inj (entityType first second : String)
    (same : formatCacheKey entityType first = formatCacheKey entityType second) : first = second :=
  (String.append_right_inj ("entity:" ++ entityType ++ ":")).mp same

namespace CacheSync

-- The Flush that a call starts runs on a goroutine of its own; here it is counted.
theorem trigger_flush_keeps (cs : CacheSync V) : ∃ spawned, cs.triggerFlush = { cs with spawned := spawned } ∧
    (spawned = cs.spawned ∨ cs.config.maxDirtySize ≤ cs.dirtyEntries.size) := by
  rw [triggerFlush]
  split
  · exact ⟨_, rfl, .inr ‹_›⟩
  · exact ⟨cs.spawned, rfl, .inl rfl⟩

theorem uncache_eq (env : Env V) (key : String) (cs : CacheSync V) :
    ∃ items, cs.uncache env key = { cs with cache := { cs.cache with items := items } } ∧ ∀ sought, items.lookup sought =
      if sought = key ∧ ran (env.deleteFault key) = true then none else cs.cache.items.lookup sought := by
  unfold uncache RedisCache.delete
  cases ran (env.deleteFault key) with
  | false => exact ⟨cs.cache.items, rfl, by simp⟩
  | true => exact ⟨cs.cache.items.erase key, rfl, by simp⟩

theorem uncache_all_eq (env : Env V) (keys : List String) (cs : CacheSync V) :
    ∃ items, keys.foldl (fun cs key => cs.uncache env key) cs = { cs with cache := { cs.cache with items := items } } ∧
      ∀ sought, items.lookup sought =
        if sought ∈ keys ∧ ran (env.deleteFault sought) = true then none else cs.cache.items.lookup sought := by
  induction keys generalizing cs with
  | nil => exact ⟨cs.cache.items, rfl, by simp⟩
  | cons key rest ih =>
    obtain ⟨first, step, removed⟩ := uncache_eq env key cs
    obtain ⟨items, later, exactly⟩ := ih (cs.uncache env key)
    refine ⟨items, by rw [List.foldl_cons, later, step], ?_⟩
    intro sought
    rw [exactly, step, removed]
    by_cases here : sought = key
    · subst here
      by_cases fault : ran (env.deleteFault sought) = true <;> simp [fault]
    · simp [here]

end CacheSync

namespace Write

def commands (env : Env V) : Write V → List (Command V)
  | set entityType entityID data opts =>
    flushEntry env.orders (CacheSync.newEntry env entityType entityID (some data) (opts.getD {}))
  | setMulti entityType entities _ =>
    if entities.size = 0 then []
    else flushEntities env.orders entityType (entities.mapValues fun data => ⟨data, env.ticket⟩)
  | delete entityType entityID _ => [executeDelete entityType entityID env.ticket]
  | deleteMulti entityType entityIDs _ =>
    executeDeleteMulti entityType (entityIDs.map fun entityID => (entityID, env.ticket))

structure Cached (env : Env V) (w : Write V) (before after : RedisCache (EntityData V)) : Prop where
  items : ∃ items, after = { before with items := items }
  stored : ∀ item ∈ w.items, ∀ data, item.2 = some data → ∃ val expiry, before.serialize data = .ok val ∧
    after.items.lookup (formatCacheKey w.entityType item.1) = some ⟨val, expiry⟩
  gone : ∀ item ∈ w.items, item.2 = none → ran (env.deleteFault (formatCacheKey w.entityType item.1)) = true ∨
    before.items.lookup (formatCacheKey w.entityType item.1) = none →
    after.items.lookup (formatCacheKey w.entityType item.1) = none
  kept : ∀ key, (∀ item ∈ w.items, formatCacheKey w.entityType item.1 ≠ key) → after.items.lookup key = before.items.lookup key

variable (env : Env V) (w : Write V) (cs : CacheSync V) (entityType entityID : String)

theorem cached_nothing (cache : RedisCache (EntityData V)) (idle : w.items = []) :
    Cached env w cache cache where
  items := ⟨cache.items, rfl⟩
  stored := by simp [idle]
  gone := by simp [idle]
  kept _ _ := rfl

theorem cached_set (data : EntityData V) (opts : Option WriteOptions) (before : RedisCache (EntityData V)) (val : String)
    (expiry : Option Int) (serialized : before.serialize data = .ok val) :
    Cached env (.set entityType entityID data opts) before
      { before with items := before.items.insert (formatCacheKey entityType entityID) ⟨val, expiry⟩ } := by
  refine ⟨⟨_, rfl⟩, ?_, ?_, ?_⟩
  · intro item member stored same
    rw [List.mem_singleton.mp member, Option.some_inj] at same
    rw [List.mem_singleton.mp member]
    exact ⟨val, expiry, same ▸ serialized, by simp [Write.entityType]⟩
  · intro item member deleted
    rw [List.mem_singleton.mp member] at deleted
    cases deleted
  · intro key absent
    have different : key ≠ formatCacheKey entityType entityID := (absent _ List.mem_cons_self).symm
    simp [different]

theorem cache_items_found (order : Shuffle (String × EntityData V)) (entityType : String)
    (entities : GoMap String (EntityData V)) (pair : String × EntityData V) (listed : pair ∈ entities.pairs) :
    ((∅ : GoMap String (EntityData V)).insertPairs
      ((order.apply entities.pairs).map fun pair => (formatCacheKey entityType pair.1, pair.2))).lookup
        (formatCacheKey entityType pair.1) = some pair.2 := by
  have apart : Function.Injective (formatCacheKey entityType) := fun first second => cache_key_inj entityType first second
  have found := AList.lookup_rekeyed order entities (formatCacheKey entityType) apart id pair.1
  rw [(AList.mem_pairs entities pair.1 pair.2).mp listed] at found
  exact found

theorem cached_set_multi (entityType : String) (entities : GoMap String (EntityData V)) (opts : Option WriteOptions)
    (before : RedisCache (EntityData V)) (cacheItems : GoMap String (EntityData V))
    (listing : cacheItems = (∅ : GoMap String (EntityData V)).insertPairs
      ((env.orders.cacheItems.apply entities.pairs).map fun pair => (formatCacheKey entityType pair.1, pair.2)))
    (stored : GoMap String Item) (untouched : ∀ key, cacheItems.lookup key = none → stored.lookup key = before.items.lookup key)
    (written : ∀ key value, cacheItems.lookup key = some value →
      ∃ val, before.serialize value = .ok val ∧ stored.lookup key = some ⟨val, none⟩) :
    Cached env (.setMulti entityType entities opts) before { before with items := stored } := by
  subst listing
  refine ⟨⟨stored, rfl⟩, ?_, ?_, ?_⟩
  · intro item member data same
    obtain ⟨⟨entityID, original⟩, listed, rfl⟩ := List.mem_map.mp member
    rw [Option.some_inj] at same
    subst same
    obtain ⟨val, serialized, found⟩ := written _ original (cache_items_found env.orders.cacheItems entityType entities _ listed)
    exact ⟨val, none, serialized, found⟩
  · intro item member deleted
    obtain ⟨pair, _, rfl⟩ := List.mem_map.mp member
    cases deleted
  · intro key absent
    refine untouched key ((AList.lookup_insert_pairs_absent _ _ _ ?_).trans (by simp))
    intro pair paired
    obtain ⟨original, listed, rfl⟩ := List.mem_map.mp paired
    exact absent _ (List.mem_map.mpr ⟨original, (Shuffle.mem_apply _ _ _).mp listed, rfl⟩)

theorem cached_removal (before after : RedisCache (EntityData V)) (keys : List String)
    (deletes : ∀ item ∈ w.items, item.2 = none ∧ formatCacheKey w.entityType item.1 ∈ keys)
    (only : ∀ key ∈ keys, ∃ item ∈ w.items, formatCacheKey w.entityType item.1 = key)
    (removed : ∃ items, after = { before with items := items } ∧ ∀ sought, items.lookup sought =
      if sought ∈ keys ∧ ran (env.deleteFault sought) = true then none else before.items.lookup sought) :
    Cached env w before after := by
  obtain ⟨items, rfl, exactly⟩ := removed
  refine ⟨⟨items, rfl⟩, ?_, ?_, ?_⟩
  · intro item member data stored
    rw [(deletes item member).1] at stored
    cases stored
  · intro item member _ removable
    simp only [exactly, (deletes item member).2, true_and]
    rcases removable with clear | absent
    · rw [if_pos clear]
    · rw [absent, ite_self]
  · intro key absent
    have foreign : key ∉ keys := fun member =>
      let ⟨item, inItems, own⟩ := only key member
      absent item inItems own
    simp [exactly, foreign]

def Refused (env : Env V) (w : Write V) (cs : CacheSync V) (cache : RedisCache (EntityData V)) : Prop :=
  cache = cs.cache ∨
    env.setFault.any Fault.executed = true ∧ (∀ item ∈ w.items, ∃ data, item.2 = some data) ∧ Cached env w cs.cache cache

-- What a call does: it fails at the cache, which may have been written all the
-- same, or it executes its statements, or it stores an entry for each of its items.
def Ran (env : Env V) (w : Write V) (cs : CacheSync V) (result : Except String Unit × CacheSync V) : Prop :=
  (∃ err cache, result = (.error err, { cs with cache := cache }) ∧ Refused env w cs cache) ∨
    ∃ cache, Cached env w cs.cache cache ∧
      (w.immediate = true ∧ result = CacheSync.execNow env (w.commands env) { cs with cache := cache } ∨
        w.immediate = false ∧ ∃ (spawned : Nat) (entries : List (DirtyEntry V)),
          (∀ entry, entry ∈ entries ↔ ∃ item ∈ w.items, entry = w.entry env item) ∧
          (spawned = cs.spawned ∨ cs.config.maxDirtySize ≤ (cs.markDirty entries).dirtyEntries.size) ∧
          result = (.ok (), { cs.markDirty entries with cache := cache, spawned := spawned }))

theorem ran_nothing (idle : w.items = []) (silent : w.commands env = []) : Ran env w cs (.ok (), cs) := by
  refine .inr ⟨cs.cache, cached_nothing env w cs.cache idle, ?_⟩
  cases kind : w.immediate with
  | true => exact .inl ⟨rfl, by rw [silent]; rfl⟩
  | false => exact .inr ⟨rfl, cs.spawned, [], by simp [idle], .inl rfl, rfl⟩

theorem ran_set (data : EntityData V) (opts : Option WriteOptions) :
    Ran env (.set entityType entityID data opts) cs (cs.set env entityType entityID data opts) := by
  simp only [CacheSync.set]
  rcases RedisCache.set_cases env.setFault (formatCacheKey entityType entityID) data cs.config.cacheTTL cs.cache with
    ⟨err, failed⟩ | ⟨val, serialized, stored, outcome⟩
  · rw [failed]
    exact .inl ⟨_, cs.cache, rfl, .inl rfl⟩
  · rcases written : cs.cache.set env.setFault (formatCacheKey entityType entityID) data cs.config.cacheTTL with ⟨_ | _, cache⟩
    · rw [written] at stored outcome
      rw [show cache = _ from stored]
      exact .inl ⟨_, _, rfl, .inr ⟨outcome.resolve_left nofun, by simp [items],
        cached_set env entityType entityID data opts _ val _ serialized⟩⟩
    · rw [written] at stored
      refine .inr ⟨cache, (show cache = _ from stored) ▸ cached_set env entityType entityID data opts _ val _ serialized, ?_⟩
      simp only [immediate, Write.opts]
      split
      · exact .inl ⟨‹_›, rfl⟩
      · obtain ⟨spawned, triggered, quiet⟩ := CacheSync.trigger_flush_keeps (CacheSync.markDirty
          [CacheSync.newEntry env entityType entityID (some data) (opts.getD {})] { cs with cache := cache })
        rw [triggered]
        exact .inr ⟨Bool.eq_false_iff.mpr ‹_›, spawned, _, by simp [items, entry, Write.entityType, Write.opts], quiet, rfl⟩

theorem ran_set_multi (entityType : String) (entities : GoMap String (EntityData V)) (opts : Option WriteOptions) :
    Ran env (.setMulti entityType entities opts) cs (cs.setMulti env entityType entities opts) := by
  simp only [CacheSync.setMulti]
  split
  · rename_i none
    have empty : entities = ∅ := AList.ext (List.length_eq_zero_iff.mp none)
    exact ran_nothing env _ cs (by simp [items, empty, AList.pairs]) (by simp [commands, none])
  rename_i many
  generalize listing : (∅ : GoMap String (EntityData V)).insertPairs
    ((env.orders.cacheItems.apply entities.pairs).map fun pair => (formatCacheKey entityType pair.1, pair.2)) = cacheItems
  rcases RedisCache.m_set_cases env.orders.cacheItems env.setFault cacheItems cs.cache with
    ⟨err, failed⟩ | ⟨stored, changed, untouched, written, outcome⟩
  · rw [failed]
    exact .inl ⟨_, cs.cache, rfl, .inl rfl⟩
  · have cached := cached_set_multi env entityType entities opts cs.cache cacheItems listing.symm stored untouched written
    rcases called : cs.cache.mSet env.orders.cacheItems env.setFault cacheItems with ⟨_ | _, cache⟩
    · rw [called] at changed outcome
      rw [show cache = _ from changed]
      refine .inl ⟨_, _, rfl, .inr ⟨outcome.resolve_left nofun, fun item member => ?_, cached⟩⟩
      obtain ⟨pair, _, rfl⟩ := List.mem_map.mp member
      exact ⟨pair.2, rfl⟩
    · rw [called] at changed
      refine .inr ⟨cache, (show cache = _ from changed) ▸ cached, ?_⟩
      simp only [immediate, Write.opts, commands, if_neg many]
      split
      · exact .inl ⟨‹_›, rfl⟩
      · obtain ⟨spawned, triggered, quiet⟩ := CacheSync.trigger_flush_keeps (CacheSync.markDirty
          ((env.orders.cacheItems.apply entities.pairs).map fun pair =>
            CacheSync.newEntry env entityType pair.1 (some pair.2) (opts.getD {})) { cs with cache := cache })
        rw [triggered]
        refine .inr ⟨Bool.eq_false_iff.mpr ‹_›, spawned, _, ?_, quiet, rfl⟩
        intro dirty
        simp only [List.mem_map, Shuffle.mem_apply, items, entry, Write.entityType, Write.opts]
        constructor
        · rintro ⟨pair, member, rfl⟩
          exact ⟨_, ⟨pair, member, rfl⟩, rfl⟩
        · rintro ⟨_, ⟨pair, member, rfl⟩, rfl⟩
          exact ⟨pair, member, rfl⟩

theorem ran_delete (opts : Option WriteOptions) :
    Ran env (.delete entityType entityID opts) cs (cs.delete env entityType entityID opts) := by
  obtain ⟨left, uncached, exactly⟩ := CacheSync.uncache_all_eq env [formatCacheKey entityType entityID] cs
  rw [List.foldl_cons, List.foldl_nil] at uncached
  simp only [CacheSync.delete, uncached]
  refine .inr ⟨_, cached_removal env _ cs.cache _ [formatCacheKey entityType entityID] (by simp [items, Write.entityType])
    (by simp [items, Write.entityType]) ⟨left, rfl, exactly⟩, ?_⟩
  simp only [immediate, Write.opts]
  split
  · exact .inl ⟨‹_›, rfl⟩
  · exact .inr ⟨Bool.eq_false_iff.mpr ‹_›, cs.spawned, [CacheSync.newEntry env entityType entityID none (opts.getD {})],
      by simp [items, entry, Write.entityType, Write.opts], .inl rfl, rfl⟩

theorem ran_delete_multi (entityType : String) (entityIDs : List String) (opts : Option WriteOptions) :
    Ran env (.deleteMulti entityType entityIDs opts) cs (cs.deleteMulti env entityType entityIDs opts) := by
  simp only [CacheSync.deleteMulti]
  split
  · rename_i none
    have empty : entityIDs = [] := List.length_eq_zero_iff.mp none
    exact ran_nothing env _ cs (by simp [items, empty]) (by simp [commands, empty, executeDeleteMulti])
  · obtain ⟨left, uncached, exactly⟩ := CacheSync.uncache_all_eq env (entityIDs.map (formatCacheKey entityType)) cs
    rw [List.foldl_map] at uncached
    simp only [uncached]
    have only : ∀ key ∈ entityIDs.map (formatCacheKey entityType), ∃ item ∈ (Write.deleteMulti (V := V) entityType entityIDs opts).items,
        formatCacheKey entityType item.1 = key := by
      intro key member
      obtain ⟨entityID, listed, rfl⟩ := List.mem_map.mp member
      exact ⟨(entityID, none), List.mem_map.mpr ⟨entityID, listed, rfl⟩, rfl⟩
    refine .inr ⟨_, cached_removal env _ cs.cache _ (entityIDs.map (formatCacheKey entityType)) ?_ only ⟨left, rfl, exactly⟩, ?_⟩
    · intro item member
      obtain ⟨entityID, listed, rfl⟩ := List.mem_map.mp member
      exact ⟨rfl, List.mem_map.mpr ⟨entityID, listed, rfl⟩⟩
    simp only [immediate, Write.opts]
    split
    · exact .inl ⟨‹_›, rfl⟩
    · exact .inr ⟨Bool.eq_false_iff.mpr ‹_›, cs.spawned, _, by simp [items, entry, Write.entityType, Write.opts, eq_comm], .inl rfl, rfl⟩

theorem run_ran : Ran env w cs (w.run env cs) := by
  cases w with
  | set entityType entityID data opts => exact ran_set env cs entityType entityID data opts
  | setMulti entityType entities opts => exact ran_set_multi env cs entityType entities opts
  | delete entityType entityID opts => exact ran_delete env cs entityType entityID opts
  | deleteMulti entityType entityIDs opts => exact ran_delete_multi env cs entityType entityIDs opts

end Write

end MmoServer.Db
