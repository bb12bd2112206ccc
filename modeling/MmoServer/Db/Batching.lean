import MmoServer.Db.Flush

set_option autoImplicit false

namespace MmoServer.Db

open Redis

variable {V : Type}

structure StartConfig where
  flushInterval : Int64
  batchSize : Int64
  cacheTTL : Int64
  maxDirtySize : Int64

def StartConfig.config (start : StartConfig) : CacheSyncConfig where
  batchSize := start.batchSize.toInt
  cacheTTL := start.cacheTTL.toInt
  maxDirtySize := start.maxDirtySize.toInt

def defaultStartConfig : StartConfig where
  flushInterval := 30 * 1000000000
  batchSize := 100
  cacheTTL := 3600 * 1000000000
  maxDirtySize := 1000

inductive StartResult (V : Type) where
  | started (cs : CacheSync V)
  | error (text : String)
  | panicked (text : String)

-- The batch size is not looked at; an interval below one stops NewTicker.
def newCacheSync (cache : Option (RedisCache (EntityData V))) (asyncDB : Option Unit) (config : Option StartConfig) :
    StartResult V :=
  match cache, asyncDB with
  | none, _ => .error "缓存未初始化"
  | some _, none => .error "异步数据库未初始化"
  | some cache, some _ =>
    let config := config.getD defaultStartConfig
    if config.flushInterval.toInt ≤ 0 then .panicked "non-positive interval for NewTicker"
    else .started { config := config.config, cache := cache }

namespace CacheSync

def flushSlices (cs : CacheSync V) (entries : List (DirtyEntry V)) : Option (List (List (DirtyEntry V))) :=
  Chunks.chunks entries cs.config.batchSize

def BatchesCover (cs : CacheSync V) (entries : List (DirtyEntry V)) : Prop :=
  ∃ slices, cs.flushSlices entries = some slices ∧ slices.flatten = entries ∧ ∀ slice ∈ slices, slice ≠ []

end CacheSync

theorem batches_cover_iff (cs : CacheSync V) (entriesToFlush entries : List (DirtyEntry V)) (entityType : String)
    (group : (entriesByType entriesToFlush).lookup entityType = some entries) (held : entries.length < 2 ^ 63) :
    cs.BatchesCover entries ↔ 1 ≤ cs.config.batchSize ∧ (entries.length : Int) + cs.config.batchSize - 1 < 2 ^ 63 := by
  have filled : entries ≠ [] := by
    refine AList.group_into_filled DirtyEntry.entityType entriesToFlush ∅ entityType entries ?_ group
    intro key stored found
    cases found
  exact Chunks.chunks_exact_iff entries cs.config.batchSize filled held

def startedNames (batchSize : Int64) : CacheSync String :=
  { config := { defaultStartConfig with batchSize }.config, cache := nameCache }

def dirtyNames : List (DirtyEntry String) :=
  ["p1", "p2", "p3"].map fun entityID => CacheSync.newEntry plainEnv "player" entityID (some (named "a")) {}

theorem pairs_cover_names :
    newCacheSync (some nameCache) (some ()) (some { defaultStartConfig with batchSize := 2 }) = .started (startedNames 2) ∧
      (startedNames 2).BatchesCover dirtyNames := by
  have sized : 1 ≤ (startedNames 2).config.batchSize ∧ (dirtyNames.length : Int) + (startedNames 2).config.batchSize - 1 < 2 ^ 63 := by
    decide
  exact ⟨rfl, (batches_cover_iff (startedNames 2) dirtyNames dirtyNames "player" rfl (by decide)).mpr sized⟩

theorem uncovered (cs : CacheSync V) (entries : List (DirtyEntry V)) (filled : entries ≠ [])
    (idle : cs.flushSlices entries = none ∨ cs.flushSlices entries = some []) : ¬ cs.BatchesCover entries := by
  rintro ⟨slices, cut, rejoined, _⟩
  rcases idle with panics | none
  · cases cut.symm.trans panics
  · cases cut.symm.trans none
    exact filled rejoined.symm

theorem sizes_leave_names :
    (∀ size, newCacheSync (some nameCache) (some ()) (some { defaultStartConfig with batchSize := size }) =
      .started (startedNames size)) ∧
      ((startedNames 0).flushSlices dirtyNames = none ∧ ¬ (startedNames 0).BatchesCover dirtyNames) ∧
      ((startedNames (-3)).flushSlices dirtyNames = some [] ∧ ¬ (startedNames (-3)).BatchesCover dirtyNames) ∧
      (startedNames 9223372036854775807).flushSlices dirtyNames = some [] ∧
        ¬ (startedNames 9223372036854775807).BatchesCover dirtyNames := by
  have zero : (startedNames 0).flushSlices dirtyNames = none := rfl
  have negative : (startedNames (-3)).flushSlices dirtyNames = some [] := by decide +kernel
  have largest : (startedNames 9223372036854775807).flushSlices dirtyNames = some [] := by decide +kernel
  have filled : dirtyNames ≠ [] := List.cons_ne_nil _ _
  exact ⟨fun _ => rfl, ⟨zero, uncovered _ _ filled (.inl zero)⟩, ⟨negative, uncovered _ _ filled (.inr negative)⟩, largest,
    uncovered _ _ filled (.inr largest)⟩

end MmoServer.Db
