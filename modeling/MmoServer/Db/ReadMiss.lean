import MmoServer.Db.ReadYourWrites

set_option autoImplicit false

namespace MmoServer.Db

open Redis

variable {V : Type}

-- Where a Get call is. The callback of its query runs on a goroutine of its own,
-- so the row it answers with waits to be stored.
inductive GetStage (V : Type) where
  | checkingCache
  | checkingDirty
  | caching (dirtyData : EntityData V)
  | submitting
  | querying
  | answering (entity : EntityData V)
  | returned (result : Except String (EntityData V))

inductive SetStage where
  | writingCache
  | recording
  | returned (result : Except String Unit)
deriving DecidableEq

structure Overlap (V : Type) where
  entity : EntityKey
  data : EntityData V
  opts : Option WriteOptions
  getEnv : Env V
  setEnv : Env V
  query : QueryOutcome V

structure Race (V : Type) where
  sync : CacheSync V
  get : GetStage V := .checkingCache
  set : SetStage := .writingCache

inductive Mover where
  | get
  | set
deriving DecidableEq, Repr

def GetStage.result : GetStage V → Option (Except String (EntityData V))
  | .returned result => some result
  | _ => none

def GetStage.held : GetStage V → Option (EntityData V)
  | .caching dirtyData => some dirtyData
  | .answering entity => some entity
  | _ => none

namespace Overlap

variable (o : Overlap V)

def cacheKey : String := formatCacheKey o.entity.entityType o.entity.entityID

def advanceGet (cs : CacheSync V) : GetStage V → Option (GetStage V × CacheSync V)
  | .checkingCache =>
    match cs.cache.get o.getEnv.getFault o.cacheKey with
    | .ok data => some (.returned (.ok data), { cs with stats := { cs.stats with cacheHits := cs.stats.cacheHits + 1 } })
    | .error _ => some (.checkingDirty, cs)
  | .checkingDirty =>
    match (cs.dirtyEntries.lookup (formatDirtyKey o.entity.entityType o.entity.entityID)).bind DirtyEntry.data with
    | some dirtyData => some (.caching dirtyData, cs)
    | none => some (.submitting, { cs with stats := { cs.stats with cacheMisses := cs.stats.cacheMisses + 1 } })
  | .caching dirtyData => some (.returned (.ok dirtyData), cs.remember o.getEnv o.cacheKey dirtyData)
  | .submitting =>
    match o.query with
    | .refused err => some (.returned (.error ("查询实体失败: " ++ err)), cs)
    | _ => some (.querying, cs)
  | .querying =>
    match o.query with
    | .refused _ => none
    | .failed err => some (.returned (.error ("查询实体失败: " ++ err)), cs)
    | .row none =>
      some (.returned (.error ("查询实体失败: " ++ CacheSync.notFound o.entity.entityType o.entity.entityID)), cs)
    | .row (some entity) => some (.answering entity, cs)
  | .answering entity => some (.returned (.ok entity), cs.remember o.getEnv o.cacheKey entity)
  | .returned _ => none

def dirtyEntry : DirtyEntry V :=
  CacheSync.newEntry o.setEnv o.entity.entityType o.entity.entityID (some o.data) (o.opts.getD {})

def advanceSet (cs : CacheSync V) : SetStage → Option (SetStage × CacheSync V)
  | .writingCache =>
    match cs.cache.set o.setEnv.setFault o.cacheKey o.data cs.config.cacheTTL with
    | (.error err, cache) => some (.returned (.error ("写入缓存失败: " ++ err)), { cs with cache := cache })
    | (.ok (), cache) => some (.recording, { cs with cache := cache })
  | .recording =>
    if (o.opts.getD {}).immediate then
      let (result, after) := cs.execNow o.setEnv (flushEntry o.setEnv.orders o.dirtyEntry)
      some (.returned result, after)
    else some (.returned (.ok ()), (cs.markDirty [o.dirtyEntry]).triggerFlush)
  | .returned _ => none

def step (s : Race V) : Mover → Option (Race V)
  | .get => (o.advanceGet s.sync s.get).map fun next => { s with get := next.1, sync := next.2 }
  | .set => (o.advanceSet s.sync s.set).map fun next => { s with set := next.1, sync := next.2 }

variable (cs : CacheSync V) (s : Race V)

theorem get_alone (fresh : s.get = .checkingCache) :
    ∃ count, Runs.run o.step s (List.replicate count .get) = some { s with
      get := .returned (s.sync.get o.getEnv o.query o.entity.entityType o.entity.entityID).1
      sync := (s.sync.get o.getEnv o.query o.entity.entityType o.entity.entityID).2 } := by
  have key : formatCacheKey o.entity.entityType o.entity.entityID = o.cacheKey := rfl
  simp only [CacheSync.get, key]
  cases cached : s.sync.cache.get o.getEnv.getFault o.cacheKey with
  | ok data => exact ⟨1, by simp [Runs.run, step, advanceGet, fresh, cached]⟩
  | error err =>
    cases dirty : (s.sync.dirtyEntries.lookup (formatDirtyKey o.entity.entityType o.entity.entityID)).bind DirtyEntry.data with
    | some dirtyData => exact ⟨3, by simp [Runs.run, List.replicate_succ, step, advanceGet, fresh, cached, dirty]⟩
    | none =>
      cases answer : o.query with
      | refused err => exact ⟨3, by simp [Runs.run, List.replicate_succ, step, advanceGet, fresh, cached, dirty, answer]⟩
      | failed err => exact ⟨4, by simp [Runs.run, List.replicate_succ, step, advanceGet, fresh, cached, dirty, answer]⟩
      | row found =>
        cases found with
        | none => exact ⟨4, by simp [Runs.run, List.replicate_succ, step, advanceGet, fresh, cached, dirty, answer]⟩
        | some entity => exact ⟨5, by simp [Runs.run, List.replicate_succ, step, advanceGet, fresh, cached, dirty, answer]⟩

theorem set_alone (fresh : s.set = .writingCache) :
    ∃ count, Runs.run o.step s (List.replicate count .set) = some { s with
      set := .returned (s.sync.set o.setEnv o.entity.entityType o.entity.entityID o.data o.opts).1
      sync := (s.sync.set o.setEnv o.entity.entityType o.entity.entityID o.data o.opts).2 } := by
  have key : formatCacheKey o.entity.entityType o.entity.entityID = o.cacheKey := rfl
  simp only [CacheSync.set, key]
  rcases written : s.sync.cache.set o.setEnv.setFault o.cacheKey o.data s.sync.config.cacheTTL with ⟨_ | _, cache⟩
  · exact ⟨1, by simp [Runs.run, step, advanceSet, fresh, written]⟩
  · refine ⟨2, ?_⟩
    cases now : (o.opts.getD {}).immediate <;>
      simp [Runs.run, List.replicate_succ, step, advanceSet, fresh, written, now, dirtyEntry]

inductive Effect (s : Race V) : Mover → Race V → Prop where
  | looked (stage : GetStage V) (cs : CacheSync V) (idle : s.get.held = none) (same : cs.cache = s.sync.cache) :
      Effect s .get { s with get := stage, sync := cs }
  | stored (found : EntityData V) (result : Except String (EntityData V)) (held : s.get.held = some found) :
      Effect s .get { s with get := .returned result, sync := s.sync.remember o.getEnv o.cacheKey found }
  | refused (err : String) (cache : RedisCache (EntityData V)) (fresh : s.set = .writingCache) :
      Effect s .set { s with set := .returned (.error err), sync := { s.sync with cache := cache } }
  | cached (cache : RedisCache (EntityData V)) (fresh : s.set = .writingCache)
      (written : s.sync.cache.set o.setEnv.setFault o.cacheKey o.data s.sync.config.cacheTTL = (.ok (), cache)) :
      Effect s .set { s with set := .recording, sync := { s.sync with cache := cache } }
  | recorded (result : Except String Unit) (cs : CacheSync V) (past : s.set = .recording) (same : cs.cache = s.sync.cache) :
      Effect s .set { s with set := .returned result, sync := cs }

theorem exec_now_cache (env : Env V) (commands : List (Command V)) (cs : CacheSync V) :
    (cs.execNow env commands).2.cache = cs.cache := by
  obtain ⟨applied, after, _⟩ := CacheSync.exec_now_log env commands cs
  rw [after]

theorem advance_get_looks (stage : GetStage V) (next : GetStage V × CacheSync V) (idle : stage.held = none)
    (advanced : o.advanceGet cs stage = some next) : next.2.cache = cs.cache := by
  cases stage with
  | caching dirtyData => cases idle
  | answering entity => cases idle
  | returned result => cases advanced
  | _ =>
    rw [advanceGet] at advanced
    split at advanced <;> cases advanced <;> rfl

theorem advance_get_stores (stage : GetStage V) (next : GetStage V × CacheSync V) (found : EntityData V)
    (held : stage.held = some found) (advanced : o.advanceGet cs stage = some next) :
    ∃ result, next = (.returned result, cs.remember o.getEnv o.cacheKey found) := by
  cases stage with
  | caching dirtyData | answering entity =>
    cases held
    cases advanced
    exact ⟨_, rfl⟩
  | _ => cases held

theorem step_effect (mover : Mover) (after : Race V) (taken : o.step s mover = some after) : o.Effect s mover after := by
  cases mover with
  | get =>
    obtain ⟨next, advanced, rfl⟩ := Option.map_eq_some_iff.mp taken
    cases held : s.get.held with
    | none => exact .looked _ _ held (o.advance_get_looks s.sync s.get next held advanced)
    | some found =>
      obtain ⟨result, rfl⟩ := o.advance_get_stores s.sync s.get next found held advanced
      exact .stored found result held
  | set =>
    obtain ⟨next, advanced, rfl⟩ := Option.map_eq_some_iff.mp taken
    cases now : s.set with
    | writingCache =>
      rw [now, advanceSet] at advanced
      split at advanced <;> cases advanced
      · exact .refused _ _ now
      · exact .cached _ now ‹_›
    | recording =>
      rw [now, advanceSet] at advanced
      split at advanced <;> cases advanced
      · exact .recorded _ _ now (exec_now_cache _ _ _)
      · obtain ⟨spawned, triggered, _⟩ := CacheSync.trigger_flush_keeps (s.sync.markDirty [o.dirtyEntry])
        exact .recorded _ _ now (by rw [triggered]; rfl)
    | returned result =>
      rw [now] at advanced
      cases advanced

def CachesWritten (s : Race V) : Prop :=
  ∃ val, s.sync.cache.serialize o.data = .ok val ∧ (s.sync.cache.items.lookup o.cacheKey).map Item.val = some val

-- The condition: Get stores what it found before the cache write of Set, unless
-- the two texts are the same or Redis does not run the store.
def StoresFirst (s : Race V) : Mover → Prop
  | .get => ∀ found ∈ s.get.held, s.set ≠ .writingCache → ran o.getEnv.setFault = true →
      ∀ val ∈ (s.sync.cache.serialize found).toOption, s.sync.cache.serialize o.data = .ok val
  | .set => True

theorem caches_written_congr (s after : Race V) (same : after.sync.cache = s.sync.cache) :
    o.CachesWritten after ↔ o.CachesWritten s := by
  rw [CachesWritten, CachesWritten, same]

theorem caches_written_cached (cache : RedisCache (EntityData V))
    (written : s.sync.cache.set o.setEnv.setFault o.cacheKey o.data s.sync.config.cacheTTL = (.ok (), cache)) :
    o.CachesWritten { s with set := .recording, sync := { s.sync with cache := cache } } := by
  rcases RedisCache.set_cases o.setEnv.setFault o.cacheKey o.data s.sync.config.cacheTTL s.sync.cache with
    ⟨_, failed⟩ | ⟨val, serialized, stored, _⟩
  · cases failed.symm.trans written
  · rw [written] at stored
    rw [show cache = _ from stored]
    exact ⟨val, serialized, by simp⟩

theorem caches_written_stored (found : EntityData V) (result : Except String (EntityData V)) (held : s.get.held = some found)
    (past : s.set ≠ .writingCache) (written : o.CachesWritten s) :
    o.CachesWritten { s with get := .returned result, sync := s.sync.remember o.getEnv o.cacheKey found } ↔
      o.StoresFirst s .get := by
  obtain ⟨own, serialized, cached⟩ := written
  have condition : o.StoresFirst s .get ↔
      (ran o.getEnv.setFault = true → ∀ val ∈ (s.sync.cache.serialize found).toOption, s.sync.cache.serialize o.data = .ok val) := by
    simp [StoresFirst, held, past]
  rw [condition, CachesWritten, CacheSync.remember, RedisCache.set]
  cases text : s.sync.cache.serialize found with
  | error err => simp [serialized, cached, Except.toOption]
  | ok val =>
    cases ran o.getEnv.setFault with
    | false => simp [serialized, cached]
    | true =>
      have kept : ∀ items, RedisCache.serialize { s.sync.cache with items := items } o.data = .ok own := fun _ => serialized
      simp [kept, Except.toOption, eq_comm]

theorem run_settled (s after : Race V) (schedule : List Mover) (result : Except String (EntityData V))
    (ran : Runs.run o.step s schedule = some after) (read : s.get = .returned result) (past : s.set ≠ .writingCache) :
    after.sync.cache = s.sync.cache := by
  have settled := Runs.run_invariant o.step
    (fun now => now.get = .returned result ∧ now.set ≠ .writingCache ∧ now.sync.cache = s.sync.cache) s after schedule
    ⟨read, past, rfl⟩ ?_ ran
  · exact settled.2.2
  · intro now mover next ⟨done, later, same⟩ taken
    cases mover with
    | get => simp [step, advanceGet, done] at taken
    | set =>
      cases o.step_effect now .set next taken with
      | refused err cache fresh | cached cache fresh => exact absurd fresh later
      | recorded outcome cs _ kept => exact ⟨done, by simp, kept.trans same⟩

theorem set_returned_stays (s after : Race V) (schedule : List Mover) (result : Except String Unit)
    (returned : s.set = .returned result) (ran : Runs.run o.step s schedule = some after) : after.set = .returned result := by
  refine Runs.run_invariant o.step (fun s => s.set = .returned result) s after schedule returned ?_ ran
  intro state mover next now taken
  cases o.step_effect state mover next taken with
  | looked => exact now
  | stored => exact now
  | refused err cache fresh => simp [fresh] at now
  | cached cache fresh => simp [fresh] at now
  | recorded result cs past => simp [past] at now

theorem run_written_iff (first last : Race V) (schedule : List Mover) (ran : Runs.run o.step first schedule = some last)
    (acknowledged : last.set = .returned (.ok ())) (since : first.set ≠ .writingCache → o.CachesWritten first) :
    o.CachesWritten last ↔ Runs.RunMeets o.step o.StoresFirst first schedule := by
  induction schedule generalizing first with
  | nil =>
    cases ran
    simpa [Runs.RunMeets] using since (by simp [acknowledged])
  | cons mover rest ih =>
    obtain ⟨next, taken, later⟩ := Option.bind_eq_some_iff.mp ran
    have meets : Runs.RunMeets o.step o.StoresFirst first (mover :: rest) ↔
        o.StoresFirst first mover ∧ Runs.RunMeets o.step o.StoresFirst next rest := by
      simp [Runs.RunMeets, taken]
    have carry : o.StoresFirst first mover → (next.set ≠ .writingCache → o.CachesWritten next) →
        (o.CachesWritten last ↔ Runs.RunMeets o.step o.StoresFirst first (mover :: rest)) := by
      intro here kept
      rw [meets, ih next later kept, and_iff_right here]
    cases o.step_effect first mover next taken with
    | looked stage cs idle same =>
      refine carry (by simp [StoresFirst, idle]) fun past => (o.caches_written_congr first _ same).mpr (since past)
    | stored found outcome held =>
      by_cases past : first.set = .writingCache
      · exact carry (by simp [StoresFirst, past]) fun later => absurd past later
      · have kept := o.caches_written_stored first found outcome held past (since past)
        by_cases here : o.StoresFirst first .get
        · exact carry here fun _ => kept.mpr here
        · have final := o.run_settled _ last rest outcome later rfl past
          rw [meets, o.caches_written_congr _ last final, kept]
          exact ⟨fun now => absurd now here, fun now => now.1⟩
    | refused err =>
      have failed := o.set_returned_stays _ last rest (.error err) rfl later
      simp [acknowledged] at failed
    | cached cache _ written => exact carry trivial fun _ => o.caches_written_cached first cache written
    | recorded outcome cs past same =>
      exact carry trivial fun _ => (o.caches_written_congr first _ same).mpr (since (by simp [past]))

theorem cached_value_written_iff (start : CacheSync V) (schedule : List Mover) (s : Race V)
    (ran : Runs.run o.step { sync := start } schedule = some s) (acknowledged : s.set = .returned (.ok ())) :
    o.CachesWritten s ↔ Runs.RunMeets o.step o.StoresFirst { sync := start } schedule :=
  o.run_written_iff _ s schedule ran acknowledged fun past => absurd rfl past

instance (s : Race V) [DecidableEq V] : (mover : Mover) → Decidable (o.StoresFirst s mover)
  | .get => inferInstanceAs (Decidable (∀ found ∈ s.get.held, s.set ≠ .writingCache → ran o.getEnv.setFault = true →
      ∀ val ∈ (s.sync.cache.serialize found).toOption, s.sync.cache.serialize o.data = .ok val))
  | .set => inferInstanceAs (Decidable True)

def saveDuringRead : Overlap String where
  entity := ⟨"player", "p"⟩
  data := named "b"
  opts := none
  getEnv := plainEnv
  setEnv := plainEnv
  query := .row (some (named "a"))

def observe (s : Race String) : Option String × Int × SetStage × Option String :=
  ((s.get.result.bind Except.toOption).bind fun data => data.lookup "name", s.sync.stats.cacheMisses, s.set,
    (s.sync.cache.items.lookup saveDuringRead.cacheKey).map Item.val)

def storedBeforeSave : List Mover := [.get, .get, .get, .get, .get, .set, .set]

theorem row_stored_before_save :
    ∃ s, Runs.run saveDuringRead.step { sync := nameSync } storedBeforeSave = some s ∧
      observe s = (some "a", 1, .returned (.ok ()), some (nameJSON "b")) ∧ saveDuringRead.CachesWritten s := by
  have observed : (Runs.run saveDuringRead.step { sync := nameSync } storedBeforeSave).map observe =
      some (some "a", 1, .returned (.ok ()), some (nameJSON "b")) := by
    decide +kernel
  obtain ⟨s, ran, seen⟩ := Option.map_eq_some_iff.mp observed
  have acknowledged : s.set = .returned (.ok ()) := congrArg (fun view => view.2.2.1) seen
  exact ⟨s, ran, seen, (saveDuringRead.cached_value_written_iff nameSync storedBeforeSave s ran acknowledged).mpr (by decide +kernel)⟩

def storedAfterSave : List Mover := [.get, .get, .get, .get, .set, .set, .get]

theorem row_stored_over_save :
    ∃ s, Runs.run saveDuringRead.step { sync := nameSync } storedAfterSave = some s ∧
      observe s = (some "a", 1, .returned (.ok ()), some (nameJSON "a")) ∧ ¬ saveDuringRead.CachesWritten s := by
  have observed : (Runs.run saveDuringRead.step { sync := nameSync } storedAfterSave).map observe =
      some (some "a", 1, .returned (.ok ()), some (nameJSON "a")) := by
    decide +kernel
  have text : (Runs.run saveDuringRead.step { sync := nameSync } storedAfterSave).map (fun s =>
      s.sync.cache.serialize saveDuringRead.data) = some (.ok (nameJSON "b")) := by
    decide +kernel
  obtain ⟨s, ran, seen⟩ := Option.map_eq_some_iff.mp observed
  rw [ran, Option.map_some, Option.some_inj] at text
  have cached : (s.sync.cache.items.lookup saveDuringRead.cacheKey).map Item.val = some (nameJSON "a") :=
    congrArg (fun view => view.2.2.2) seen
  refine ⟨s, ran, seen, ?_⟩
  rintro ⟨val, own, found⟩
  rw [text, Except.ok.injEq] at own
  rw [cached, ← own, Option.some_inj] at found
  exact absurd found (by decide)

end Overlap

end MmoServer.Db
