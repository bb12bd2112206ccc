import MmoServer.Db.WriteEffects

set_option autoImplicit false

namespace MmoServer.Db

open Redis

variable {V : Type}

def DirtyEntry.timeless (entry : DirtyEntry V) : DirtyEntry V := { entry with modifiedAt := 0, ticket := 0 }

namespace CacheSync

def setEach (envs : String → Env V) (entityType : String) (opts : Option WriteOptions) :
    List (String × EntityData V) → CacheSync V → Option (CacheSync V)
  | [], cs => some cs
  | pair :: rest, cs =>
    match cs.set (envs pair.1) entityType pair.1 pair.2 opts with
    | (.error _, _) => none
    | (.ok (), after) => setEach envs entityType opts rest after

def lifetime (cs : CacheSync V) : Int := if cs.config.cacheTTL = 0 then cs.cache.defaultTTL else cs.config.cacheTTL

def expiry (entityType entityID : String) (cs : CacheSync V) : Option Int :=
  cs.cache.expiry cs.config.cacheTTL (formatCacheKey entityType entityID)

def SameDirty (one two : CacheSync V) : Prop :=
  ∀ key, (one.dirtyEntries.lookup key).map DirtyEntry.timeless = (two.dirtyEntries.lookup key).map DirtyEntry.timeless

def SameValues (one two : CacheSync V) : Prop :=
  ∀ key, (one.cache.items.lookup key).map Item.val = (two.cache.items.lookup key).map Item.val

def SameExpiry (one two : CacheSync V) : Prop :=
  ∀ key, (one.cache.items.lookup key).map Item.ttl = (two.cache.items.lookup key).map Item.ttl

end CacheSync

structure Placed (entityType : String) (pairs : List (String × EntityData V)) (ttl : String → Option Int)
    (entry : String → EntityData V → DirtyEntry V) (cs after : CacheSync V) : Prop where
  dirty : ∀ pair ∈ pairs, after.dirtyEntries.lookup (formatDirtyKey entityType pair.1) = some (entry pair.1 pair.2)
  clean : ∀ key, (∀ pair ∈ pairs, formatDirtyKey entityType pair.1 ≠ key) →
    after.dirtyEntries.lookup key = cs.dirtyEntries.lookup key
  cached : ∀ pair ∈ pairs, ∃ val, cs.cache.serialize pair.2 = .ok val ∧
    after.cache.items.lookup (formatCacheKey entityType pair.1) = some ⟨val, ttl pair.1⟩
  kept : ∀ key, (∀ pair ∈ pairs, formatCacheKey entityType pair.1 ≠ key) →
    after.cache.items.lookup key = cs.cache.items.lookup key

section Placed

theorem keys_agree {α β : Type} (format : String → String) (pairs others : List (String × EntityData V))
    (same : ∀ pair, pair ∈ pairs ↔ pair ∈ others) (one two old : GoMap String α) (view : α → β)
    (here : ∀ pair ∈ pairs, (one.lookup (format pair.1)).map view = (two.lookup (format pair.1)).map view)
    (first : ∀ key, (∀ pair ∈ pairs, format pair.1 ≠ key) → one.lookup key = old.lookup key)
    (second : ∀ key, (∀ pair ∈ others, format pair.1 ≠ key) → two.lookup key = old.lookup key) (key : String) :
    (one.lookup key).map view = (two.lookup key).map view := by
  by_cases listed : ∃ pair ∈ pairs, format pair.1 = key
  · obtain ⟨pair, member, rfl⟩ := listed
    exact here pair member
  · have apart : ∀ pair ∈ pairs, format pair.1 ≠ key := fun pair member own => listed ⟨pair, member, own⟩
    rw [first key apart, second key fun pair member => apart pair ((same pair).mpr member)]

variable {entityType : String} {pairs others : List (String × EntityData V)} {ttl expiry : String → Option Int}
  {entry again : String → EntityData V → DirtyEntry V} {cs one two : CacheSync V}
  (first : Placed entityType pairs ttl entry cs one) (second : Placed entityType others expiry again cs two)
  (same : ∀ pair, pair ∈ pairs ↔ pair ∈ others)

include first second same

theorem placed_dirty (timeless : ∀ id data, (entry id data).timeless = (again id data).timeless) : one.SameDirty two := by
  refine keys_agree (formatDirtyKey entityType) pairs others same _ _ _ _ ?_ first.clean second.clean
  intro pair member
  rw [first.dirty pair member, second.dirty pair ((same pair).mp member), Option.map_some, Option.map_some, timeless]

theorem placed_items (pair : String × EntityData V) (member : pair ∈ pairs) :
    ∃ val, one.cache.items.lookup (formatCacheKey entityType pair.1) = some ⟨val, ttl pair.1⟩ ∧
      two.cache.items.lookup (formatCacheKey entityType pair.1) = some ⟨val, expiry pair.1⟩ := by
  obtain ⟨val, text, found⟩ := first.cached pair member
  obtain ⟨_, text_again, found_again⟩ := second.cached pair ((same pair).mp member)
  cases text.symm.trans text_again
  exact ⟨val, found, found_again⟩

theorem placed_values : one.SameValues two := by
  refine keys_agree (formatCacheKey entityType) pairs others same _ _ _ _ ?_ first.kept second.kept
  intro pair member
  obtain ⟨val, found, found_again⟩ := placed_items first second same pair member
  rw [found, found_again, Option.map_some, Option.map_some]

theorem placed_expiry : one.SameExpiry two ↔ ∀ pair ∈ pairs, ttl pair.1 = expiry pair.1 := by
  constructor
  · intro equal pair present
    obtain ⟨val, found, found_again⟩ := placed_items first second same pair present
    have at_key := equal (formatCacheKey entityType pair.1)
    rw [found, found_again] at at_key
    exact Option.some.inj at_key
  · intro equal
    refine keys_agree (formatCacheKey entityType) pairs others same _ _ _ _ ?_ first.kept second.kept
    intro pair member
    obtain ⟨val, found, found_again⟩ := placed_items first second same pair member
    rw [found, found_again]
    exact congrArg some (equal pair member)

end Placed

theorem placed_cons (entityType : String) (pair : String × EntityData V) (rest : List (String × EntityData V))
    (ttl after_ttl : String → Option Int) (here entry : String → EntityData V → DirtyEntry V) (cs between after : CacheSync V)
    (lasts : ∀ other ∈ rest, after_ttl other.1 = ttl other.1) (agree : here pair.1 pair.2 = entry pair.1 pair.2)
    (apart : ∀ other ∈ rest, other.1 ≠ pair.1)
    (serializes : between.cache.serialize = cs.cache.serialize)
    (one : Placed entityType [pair] ttl here cs between) (tail : Placed entityType rest after_ttl entry between after) :
    Placed entityType (pair :: rest) ttl entry cs after where
  dirty := by
    refine List.forall_mem_cons.mpr ⟨?_, tail.dirty⟩
    rw [tail.clean _ fun other member same => apart other member (format_dirty_key_inj entityType _ _ same)]
    rw [one.dirty pair (List.mem_singleton_self pair), agree]
  clean key absent := by
    obtain ⟨now, later⟩ := List.forall_mem_cons.mp absent
    rw [tail.clean key later, one.clean key fun other member => List.mem_singleton.mp member ▸ now]
  cached := by
    refine List.forall_mem_cons.mpr ⟨?_, fun other member => ?_⟩
    · rw [tail.kept _ fun other member same => apart other member (cache_key_inj entityType _ _ same)]
      exact one.cached pair (List.mem_singleton_self pair)
    · rw [← serializes, ← lasts other member]
      exact tail.cached other member
  kept key absent := by
    obtain ⟨now, later⟩ := List.forall_mem_cons.mp absent
    rw [tail.kept key later, one.kept key fun other member => List.mem_singleton.mp member ▸ now]

theorem Write.Deferred.placed {env : Env V} {w : Write V} {cs after : CacheSync V} (change : Write.Deferred env w cs after)
    (pairs : List (String × EntityData V)) (writes : w.items = pairs.map fun pair => (pair.1, some pair.2))
    (ttl : String → Option Int) (expiry : ∀ pair ∈ pairs, ∀ item,
      after.cache.items.lookup (formatCacheKey w.entityType pair.1) = some item → item.ttl = ttl pair.1) :
    Placed w.entityType pairs ttl (fun id data => CacheSync.newEntry env w.entityType id (some data) w.opts)
      cs after := by
  have listed : ∀ pair ∈ pairs, (pair.1, some pair.2) ∈ w.items := by
    intro pair member
    rw [writes]
    exact List.mem_map.mpr ⟨pair, member, rfl⟩
  have only : ∀ item ∈ w.items, ∃ pair ∈ pairs, (pair.1, some pair.2) = item := by
    rw [writes]
    exact fun item => List.mem_map.mp
  refine ⟨fun pair member => change.stored _ (listed pair member), ?_, ?_, ?_⟩
  · intro key absent
    refine change.kept key fun item member => ?_
    obtain ⟨pair, inPairs, rfl⟩ := only item member
    exact absent pair inPairs
  · intro pair member
    obtain ⟨val, duration, text, found⟩ := change.cached.stored _ (listed pair member) pair.2 rfl
    cases expiry pair member _ found
    exact ⟨val, text, found⟩
  · intro key absent
    refine change.cached.kept key fun item member => ?_
    obtain ⟨pair, inPairs, rfl⟩ := only item member
    exact absent pair inPairs

namespace CacheSync

variable (entityType : String) (opts : Option WriteOptions)

variable (env : Env V) (entityID : String)

theorem no_expiry (cs : CacheSync V) : cs.expiry entityType entityID = none ↔
    cs.lifetime ≤ 0 ∧ (cs.lifetime = -1 → (cs.cache.items.lookup (formatCacheKey entityType entityID)).bind Item.ttl = none) := by
  rw [expiry, RedisCache.expiry, ← lifetime]
  split
  · simp only [reduceCtorEq, false_iff]
    omega
  · split <;> simp_all

theorem set_expiry (data : EntityData V) (cs after : CacheSync V) (later : (opts.getD {}).immediate = false)
    (ok : cs.set env entityType entityID data opts = (.ok (), after)) (item : Item)
    (found : after.cache.items.lookup (formatCacheKey entityType entityID) = some item) :
    item.ttl = cs.expiry entityType entityID := by
  rcases RedisCache.set_cases env.setFault (formatCacheKey entityType entityID) data cs.config.cacheTTL cs.cache with
    ⟨_, failed⟩ | ⟨val, _, stored, _⟩
  · rw [set, failed] at ok
    cases ok
  · simp only [set, later] at ok
    split at ok
    · cases ok
    next cache written =>
      rw [written] at stored
      obtain ⟨spawned, triggered, _⟩ := trigger_flush_keeps (markDirty [newEntry env entityType entityID (some data) (opts.getD {})]
        { cs with cache := cache })
      rw [if_neg Bool.false_ne_true, triggered] at ok
      cases ok
      rw [markDirty, show cache = _ from stored, AList.lookup_insert] at found
      cases found
      rfl

theorem set_multi_expiry (entities : GoMap String (EntityData V)) (cs after : CacheSync V) (filled : entities.size ≠ 0)
    (later : (opts.getD {}).immediate = false) (ok : cs.setMulti env entityType entities opts = (.ok (), after))
    (pair : String × EntityData V) (member : pair ∈ entities.pairs) (item : Item)
    (found : after.cache.items.lookup (formatCacheKey entityType pair.1) = some item) : item.ttl = none := by
  simp only [setMulti, if_neg filled, later] at ok
  split at ok
  · cases ok
  next cache written =>
    rcases RedisCache.m_set_cases env.orders.cacheItems env.setFault _ cs.cache with ⟨_, failed⟩ | ⟨stored, changed, _, fresh, _⟩
    · cases failed.symm.trans written
    rw [written] at changed
    obtain ⟨val, _, here⟩ := fresh _ pair.2 (Write.cache_items_found env.orders.cacheItems entityType entities pair member)
    obtain ⟨spawned, triggered, _⟩ := trigger_flush_keeps (markDirty ((env.orders.cacheItems.apply entities.pairs).map fun pair =>
      newEntry env entityType pair.1 (some pair.2) (opts.getD {})) { cs with cache := cache })
    rw [if_neg Bool.false_ne_true, triggered] at ok
    cases ok
    rw [markDirty, show cache = _ from changed] at found
    cases here.symm.trans found
    rfl

theorem set_placed (data : EntityData V) (cs after : CacheSync V) (later : (opts.getD {}).immediate = false)
    (ok : cs.set env entityType entityID data opts = (.ok (), after)) :
    Placed entityType [(entityID, data)] (cs.expiry entityType)
      (fun id data => newEntry env entityType id (some data) (opts.getD {})) cs after ∧
      after.config = cs.config ∧ ∃ items, after.cache = { cs.cache with items := items } := by
  rcases Write.run_deferred env (.set entityType entityID data opts) cs later with ⟨err, _, failed, _⟩ | ⟨_, ran, change⟩
  · cases ok.symm.trans failed
  · cases ok.symm.trans ran
    refine ⟨change.placed [(entityID, data)] rfl _ ?_, change.config, change.cached.items⟩
    intro pair member item found
    cases List.mem_singleton.mp member
    exact set_expiry entityType opts env entityID data cs after later ok item found

theorem set_multi_placed (entities : GoMap String (EntityData V)) (cs after : CacheSync V) (filled : entities.size ≠ 0)
    (later : (opts.getD {}).immediate = false) (ok : cs.setMulti env entityType entities opts = (.ok (), after)) :
    Placed entityType entities.pairs (fun _ => none) (fun id data => newEntry env entityType id (some data) (opts.getD {})) cs after := by
  rcases Write.run_deferred env (.setMulti entityType entities opts) cs later with ⟨err, _, failed, _⟩ | ⟨_, ran, change⟩
  · cases ok.symm.trans failed
  · cases ok.symm.trans ran
    refine change.placed entities.pairs rfl _ ?_
    exact set_multi_expiry entityType opts env entities cs after filled later ok

theorem set_each_placed (envs : String → Env V) (later : (opts.getD {}).immediate = false) (pairs : List (String × EntityData V))
    (distinct : (pairs.map Prod.fst).Nodup) (cs after : CacheSync V) (ok : cs.setEach envs entityType opts pairs = some after) :
    Placed entityType pairs (cs.expiry entityType)
      (fun id data => newEntry (envs id) entityType id (some data) (opts.getD {})) cs after := by
  induction pairs generalizing cs with
  | nil =>
    cases ok
    exact ⟨by simp, fun _ _ => rfl, by simp, fun _ _ => rfl⟩
  | cons pair rest ih =>
    simp only [setEach] at ok
    split at ok
    · cases ok
    next between wrote =>
      obtain ⟨one, config, items, cache⟩ := set_placed entityType opts (envs pair.1) pair.1 pair.2 cs between later wrote
      rw [List.map_cons, List.nodup_cons] at distinct
      have tail := ih distinct.2 between ok
      have apart : ∀ other ∈ rest, other.1 ≠ pair.1 := fun other member same =>
        distinct.1 (same ▸ List.mem_map.mpr ⟨other, member, rfl⟩)
      have lasts : ∀ other ∈ rest, between.expiry entityType other.1 = cs.expiry entityType other.1 := by
        intro other member
        have kept := one.kept (formatCacheKey entityType other.1) (by
          simpa using fun same => apart other member (cache_key_inj entityType _ _ same).symm)
        rw [expiry, expiry, RedisCache.expiry, RedisCache.expiry, kept, config, cache]
      have serializes : between.cache.serialize = cs.cache.serialize := by
        rw [cache]
        rfl
      exact placed_cons entityType pair rest _ _ _ _ cs between after lasts rfl apart serializes one tail

end CacheSync

-- The two leave the same entries and values; the expiry is the same only where
-- Set passes none on, since MSet never has one.
theorem bulk_set_equals_sets_iff (env : Env V) (envs : String → Env V) (entityType : String) (opts : Option WriteOptions)
    (entities : GoMap String (EntityData V)) (order : List (String × EntityData V)) (cs bulk each : CacheSync V)
    (filled : entities.size ≠ 0) (later : (opts.getD {}).immediate = false) (any : order.Perm entities.pairs)
    (together : cs.setMulti env entityType entities opts = (.ok (), bulk))
    (apiece : cs.setEach envs entityType opts order = some each) :
    bulk.SameDirty each ∧ bulk.SameValues each ∧
      (bulk.SameExpiry each ↔ cs.lifetime ≤ 0 ∧ (cs.lifetime = -1 → ∀ pair ∈ entities.pairs,
        (cs.cache.items.lookup (formatCacheKey entityType pair.1)).bind Item.ttl = none)) := by
  have distinct : (order.map Prod.fst).Nodup := by
    rw [(any.map Prod.fst).nodup_iff, AList.pairs_keys]
    exact entities.keys_nodup
  have one := CacheSync.set_multi_placed entityType opts env entities cs bulk filled later together
  have two := CacheSync.set_each_placed entityType opts envs later order distinct cs each apiece
  have same : ∀ pair, pair ∈ entities.pairs ↔ pair ∈ order := fun pair => any.mem_iff.symm
  refine ⟨placed_dirty one two same fun _ _ => rfl, placed_values one two same, ?_⟩
  have present : 0 < entities.pairs.length := by
    rw [AList.pairs, List.length_map]
    exact Nat.pos_of_ne_zero filled
  obtain ⟨first, listed⟩ := List.exists_mem_of_length_pos present
  simp only [placed_expiry one two same, eq_comm (a := none), CacheSync.no_expiry]
  constructor
  · intro all
    exact ⟨(all first listed).1, fun keeps pair member => (all pair member).2 keeps⟩
  · intro lasting pair member
    exact ⟨lasting.1, fun keeps => lasting.2 keeps pair member⟩

def twoNames : GoMap String (EntityData String) :=
  ((∅ : GoMap String (EntityData String)).insert "1" (named "a")).insert "2" (named "b")

def lastingSync : CacheSync String :=
  { nameSync with config := { nameSync.config with cacheTTL := 0 }, cache := { nameCache with defaultTTL := 0 } }

theorem lasting_names_stored_alike :
    ∃ bulk each, lastingSync.setMulti plainEnv "player" twoNames none = (.ok (), bulk) ∧
      lastingSync.setEach (fun _ => plainEnv) "player" none twoNames.pairs.reverse = some each ∧ bulk.SameExpiry each := by
  refine ⟨_, _, rfl, rfl, ?_⟩
  exact (bulk_set_equals_sets_iff plainEnv (fun _ => plainEnv) "player" none twoNames twoNames.pairs.reverse lastingSync _ _
    (by decide) rfl (List.reverse_perm _) rfl rfl).2.2.mpr (by decide)

theorem bulk_name_never_expires :
    ∃ bulk each, nameSync.setMulti plainEnv "player" twoNames none = (.ok (), bulk) ∧
      nameSync.setEach (fun _ => plainEnv) "player" none twoNames.pairs = some each ∧
      (bulk.cache.items.lookup "entity:player:1").map Item.ttl = some none ∧
      (each.cache.items.lookup "entity:player:1").map Item.ttl = some (some 3600000000000) ∧ ¬ bulk.SameExpiry each := by
  refine ⟨_, _, rfl, rfl, by decide, by decide, ?_⟩
  intro same
  exact absurd (same "entity:player:1") (by decide)

end MmoServer.Db
