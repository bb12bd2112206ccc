import MmoServer.Db.CacheSync
import MmoServer.Lib.Sweep

set_option autoImplicit false

namespace MmoServer.Db

open Redis

variable {V : Type}

inductive RowsOutcome (V : Type) where
  | refused (err : String)
  | failed (err : String)
  | rows (found : List (List (String × V)))

structure MultiAnswer (V : Type) where
  result : GoMap String (EntityData V)
  err : Option String

structure MultiRead (V : Type) where
  result : GoMap String (EntityData V) := ∅
  missing : List String := []
  sync : CacheSync V

namespace MultiRead

def hit (entityID : String) (entityData : EntityData V) (read : MultiRead V) : MultiRead V :=
  { read with
    result := read.result.insert entityID entityData
    sync := { read.sync with stats := { read.sync.stats with cacheHits := read.sync.stats.cacheHits + 1 } } }

def miss (entityID : String) (read : MultiRead V) : MultiRead V :=
  { read with
    missing := read.missing ++ [entityID]
    sync := { read.sync with stats := { read.sync.stats with cacheMisses := read.sync.stats.cacheMisses + 1 } } }

-- Unlike Get this parses the text whether or not the cache is in JSON mode.
def take (read : MultiRead V) (entityID : String) (data : Option String) : MultiRead V :=
  match data with
  | none => read.miss entityID
  | some jsonStr =>
    match read.sync.cache.codec.unmarshal jsonStr with
    | .error _ => read.miss entityID
    | .ok entityData => read.hit entityID entityData

end MultiRead

def scanRow (asString : V → Option String) (cols : List (String × V)) : String × EntityData V :=
  cols.foldl (fun (id, entity) (colName, val) =>
    (if colName = "id" then (asString val).getD id else id, entity.insert colName val)) ("", ∅)

def collectRows (asString : V → Option String) (rows : List (List (String × V))) : GoMap String (EntityData V) :=
  rows.foldl (fun dbResult cols =>
    let (id, entity) := scanRow asString cols
    if id ≠ "" then dbResult.insert id entity else dbResult) ∅

def selectMulti (entityType : String) (count : Nat) : String :=
  "SELECT * FROM " ++ entityType ++ " WHERE id IN (" ++ ", ".intercalate ((List.range count).map placeholder) ++ ")"

namespace CacheSync

variable (env : Env V) (entityType : String)

def dirtyData (cs : CacheSync V) (entityID : String) : Option (EntityData V) :=
  (cs.dirtyEntries.lookup (formatDirtyKey entityType entityID)).bind DirtyEntry.data

-- The error of the cache is logged only, and then no ID is missing.
def readCache (entityIDs : List String) (cs : CacheSync V) : MultiRead V :=
  match cs.cache.mGet env.getFault (entityIDs.map (formatCacheKey entityType)) with
  | .error _ => { sync := cs }
  | .ok cachedData => (entityIDs.zip cachedData).foldl (fun read pair => read.take pair.1 pair.2) { sync := cs }

def takeDirty (state : GoMap String (EntityData V) × CacheSync V) (entityID : String) :
    Option (GoMap String (EntityData V) × CacheSync V) :=
  (state.2.dirtyData entityType entityID).map fun dirtyData =>
    (state.1.insert entityID dirtyData, state.2.remember env (formatCacheKey entityType entityID) dirtyData)

-- The loop ranges over missingIDs while it removes from that slice.
def readDirty (read : MultiRead V) : Sweep.Window String × GoMap String (EntityData V) × CacheSync V :=
  Sweep.sweep (takeDirty env entityType) read.missing (read.result, read.sync)

def beforeQuery (entityIDs : List String) (cs : CacheSync V) :
    Sweep.Window String × GoMap String (EntityData V) × CacheSync V :=
  readDirty env entityType (cs.readCache env entityType entityIDs)

def mergeRows (found : GoMap String (EntityData V)) (state : GoMap String (EntityData V) × CacheSync V) :
    GoMap String (EntityData V) × CacheSync V :=
  (env.orders.cacheItems.apply found.pairs).foldl (fun (result, cs) (id, entity) =>
    (result.insert id entity, cs.remember env (formatCacheKey entityType id) entity)) state

def getMulti (query : String → List String → RowsOutcome V) (asString : V → Option String) (entityIDs : List String)
    (cs : CacheSync V) : MultiAnswer V × CacheSync V :=
  if entityIDs.length = 0 then (⟨∅, none⟩, cs)
  else
    let (missing, result, cs) := cs.beforeQuery env entityType entityIDs
    let missingIDs := missing.contents
    if missingIDs.length = 0 then (⟨result, none⟩, cs)
    else
      match query (selectMulti entityType missingIDs.length) missingIDs with
      | .refused err => (⟨result, some ("批量查询实体失败: " ++ err)⟩, cs)
      | .failed err => (⟨result, some ("批量查询实体失败: " ++ err)⟩, cs)
      | .rows found =>
        let (result, cs) := mergeRows env entityType (collectRows asString found) (result, cs)
        (⟨result, none⟩, cs)

def cachedData (cs : CacheSync V) (entityID : String) : Option (EntityData V) :=
  (cs.cache.items.lookup (formatCacheKey entityType entityID)).bind fun item => (cs.cache.codec.unmarshal item.val).toOption

def missed (cs : CacheSync V) (entityIDs : List String) : List String :=
  entityIDs.filter fun entityID => (cs.cachedData entityType entityID).isNone

theorem take_eq (cs : CacheSync V) (read : MultiRead V) (entityID : String) (same : read.sync.cache = cs.cache) :
    read.take entityID ((cs.cache.items.lookup (formatCacheKey entityType entityID)).map Item.val) =
      match cs.cachedData entityType entityID with
      | none => read.miss entityID
      | some entityData => read.hit entityID entityData := by
  rw [cachedData]
  cases cs.cache.items.lookup (formatCacheKey entityType entityID) with
  | none => rfl
  | some item =>
    simp only [Option.map_some, Option.bind_some, MultiRead.take, same]
    cases cs.cache.codec.unmarshal item.val <;> rfl

theorem take_all (cs : CacheSync V) (entityIDs : List String) (read : MultiRead V) (same : read.sync.cache = cs.cache) :
    ∃ result stats, (entityIDs.zip ((entityIDs.map (formatCacheKey entityType)).map fun key =>
        (cs.cache.items.lookup key).map Item.val)).foldl (fun read pair => read.take pair.1 pair.2) read =
      { result := result
        missing := read.missing ++ cs.missed entityType entityIDs
        sync := { read.sync with stats := stats } } := by
  induction entityIDs generalizing read with
  | nil => exact ⟨read.result, read.sync.stats, by simp [missed]⟩
  | cons entityID rest ih =>
    rw [List.map_cons, List.map_cons, List.zip_cons_cons, List.foldl_cons, take_eq entityType cs read entityID same]
    cases found : cs.cachedData entityType entityID with
    | none =>
      obtain ⟨result, stats, taken⟩ := ih (read.miss entityID) same
      have head : cs.missed entityType (entityID :: rest) = entityID :: cs.missed entityType rest :=
        List.filter_cons_of_pos (by rw [found]; rfl)
      refine ⟨result, stats, ?_⟩
      rw [head, List.append_cons]
      exact taken
    | some entityData =>
      obtain ⟨result, stats, taken⟩ := ih (read.hit entityID entityData) same
      have head : cs.missed entityType (entityID :: rest) = cs.missed entityType rest :=
        List.filter_cons_of_neg (by simp [found])
      refine ⟨result, stats, ?_⟩
      rw [head]
      exact taken

theorem read_cache_ok (entityIDs : List String) (vals : List (Option String)) (cs : CacheSync V)
    (ok : cs.cache.mGet env.getFault (entityIDs.map (formatCacheKey entityType)) = .ok vals) :
    ∃ result stats, cs.readCache env entityType entityIDs =
      { result := result, missing := cs.missed entityType entityIDs, sync := { cs with stats := stats } } := by
  obtain ⟨result, stats, taken⟩ := take_all entityType cs entityIDs { sync := cs } rfl
  refine ⟨result, stats, ?_⟩
  simp only [readCache, ok]
  rw [RedisCache.m_get_ok _ _ _ _ ok, taken, List.nil_append]

theorem take_dirty_step (cs : CacheSync V) (state after : GoMap String (EntityData V) × CacheSync V) (entityID : String)
    (same : state.2.dirtyEntries = cs.dirtyEntries) (taken : takeDirty env entityType state entityID = some after) :
    after.2.dirtyEntries = cs.dirtyEntries ∧ ∃ data, cs.dirtyData entityType entityID = some data ∧
      after.1 = state.1.insert entityID data := by
  obtain ⟨data, found, rfl⟩ := Option.map_eq_some_iff.mp taken
  rw [dirtyData, same] at found
  exact ⟨same, data, found, rfl⟩

theorem take_dirty_decides (cs : CacheSync V) (state : GoMap String (EntityData V) × CacheSync V) (entityID : String)
    (same : state.2.dirtyEntries = cs.dirtyEntries) :
    (takeDirty env entityType state entityID).isSome = (cs.dirtyData entityType entityID).isSome := by
  rw [takeDirty, Option.isSome_map, dirtyData, dirtyData, same]

structure SeesDirty (cs : CacheSync V) (entityIDs sent : List String) (result : GoMap String (EntityData V)) : Prop where
  found : ∀ id ∈ entityIDs, cs.cachedData entityType id = none → ∀ data, cs.dirtyData entityType id = some data →
    result.lookup id = some data
  asked : ∀ id, id ∈ sent ↔ id ∈ entityIDs ∧ cs.cachedData entityType id = none ∧ cs.dirtyData entityType id = none

section Loop

variable (cs : CacheSync V) (missing : List String) (state : GoMap String (EntityData V) × CacheSync V)
  (same : state.2.dirtyEntries = cs.dirtyEntries)

include same

theorem dirty_taken (id : String) (member : id ∈ missing) (data : EntityData V) (dirty : cs.dirtyData entityType id = some data) :
    (Sweep.sweep (takeDirty env entityType) missing state).2.1.lookup id = some data ∨
      id ∈ (Sweep.sweep (takeDirty env entityType) missing state).1.contents := by
  have covered := (Sweep.sweep_done (takeDirty env entityType) (fun state => state.2.dirtyEntries = cs.dirtyEntries)
    (fun id state => ∀ data, cs.dirtyData entityType id = some data → state.1.lookup id = some data) ?_ missing state same).2
  · exact (covered id member).imp_left fun done => done data dirty
  · intro state id after same taken
    obtain ⟨still, own, found, inserted⟩ := take_dirty_step env entityType cs state after id same taken
    rw [inserted]
    refine ⟨still, ?_, ?_⟩
    · intro data dirty
      rw [AList.lookup_insert, ← found, dirty]
    · intro other done data dirty
      rw [AList.lookup_insert_eq]
      split
      next equal => rw [← found, ← equal, dirty]
      · exact done data dirty

theorem dirty_trimmed : (Sweep.sweep (takeDirty env entityType) missing state).1 =
    (List.range missing.length).foldl (Sweep.trim fun id => (cs.dirtyData entityType id).isSome) (.whole missing) :=
  Sweep.sweep_trims _ _ (fun state => state.2.dirtyEntries = cs.dirtyEntries)
    (fun state id after same taken => (take_dirty_step env entityType cs state after id same taken).1)
    (fun state id same => take_dirty_decides env entityType cs state id same) missing state same

theorem clean_left (id : String) (clean : cs.dirtyData entityType id = none) :
    id ∈ (Sweep.sweep (takeDirty env entityType) missing state).1.contents ↔ id ∈ missing := by
  have others := Sweep.trimmed_others (fun id => (cs.dirtyData entityType id).isSome) missing
  rw [← dirty_trimmed env entityType cs missing state same] at others
  have listed := congrArg (fun ids => id ∈ ids) others
  simpa [clean] using listed

end Loop

end CacheSync

section Dirty

variable (env : Env V) (entityType : String) (entityIDs : List String) (vals : List (Option String)) (cs : CacheSync V)
  (ok : cs.cache.mGet env.getFault (entityIDs.map (formatCacheKey entityType)) = .ok vals)

include ok

-- The IDs that the loop leaves out are those behind one that it has removed; what
-- becomes of them is right where none of them has dirty data but the last missing ID.
theorem dirty_seen_iff :
    cs.SeesDirty entityType entityIDs (cs.beforeQuery env entityType entityIDs).1.contents
        (cs.beforeQuery env entityType entityIDs).2.1 ↔
      ∀ id ∈ Sweep.kept (fun id => (cs.dirtyData entityType id).isSome) (cs.missed entityType entityIDs),
        (cs.dirtyData entityType id).isSome → some id = (cs.missed entityType entityIDs).getLast? := by
  obtain ⟨result, stats, read⟩ := CacheSync.read_cache_ok env entityType entityIDs vals cs ok
  rw [CacheSync.beforeQuery, read, CacheSync.readDirty]
  have member : ∀ id, id ∈ cs.missed entityType entityIDs ↔ id ∈ entityIDs ∧ cs.cachedData entityType id = none := by
    simp [CacheSync.missed]
  rw [← Sweep.trimmed_clear_iff, ← CacheSync.dirty_trimmed env entityType cs _ (result, { cs with stats := stats }) rfl]
  constructor
  · intro sees id left
    rw [((sees.asked id).mp left).2.2]
    rfl
  · intro clear
    have clean : ∀ id ∈ (Sweep.sweep (CacheSync.takeDirty env entityType) (cs.missed entityType entityIDs)
        (result, { cs with stats := stats })).1.contents, cs.dirtyData entityType id = none := fun id left =>
      Option.isNone_iff_eq_none.mp (Option.isSome_eq_false_iff.mp (clear id left))
    refine ⟨?_, ?_⟩
    · intro id listed missed data dirty
      refine (CacheSync.dirty_taken env entityType cs _ _ rfl id ((member id).mpr ⟨listed, missed⟩) data dirty).resolve_right ?_
      intro left
      cases dirty.symm.trans (clean id left)
    · intro id
      rw [← and_assoc, ← member]
      constructor
      · intro left
        exact ⟨(CacheSync.clean_left env entityType cs _ _ rfl id (clean id left)).mp left, clean id left⟩
      · rintro ⟨missed, bare⟩
        exact (CacheSync.clean_left env entityType cs _ _ rfl id bare).mpr missed

end Dirty

def evictedNames : CacheSync String :=
  nameSync.markDirty (["a", "b", "c"].map fun name =>
    CacheSync.newEntry plainEnv "player" name (some (named name)) {})

theorem two_dirty_seen :
    evictedNames.SeesDirty "player" ["a", "d", "a", "b"]
      (evictedNames.beforeQuery plainEnv "player" ["a", "d", "a", "b"]).1.contents
      (evictedNames.beforeQuery plainEnv "player" ["a", "d", "a", "b"]).2.1 :=
  (dirty_seen_iff plainEnv "player" ["a", "d", "a", "b"] [none, none, none, none] evictedNames rfl).mpr (by decide)

def staleRow (name : String) : List (String × String) := [("id", name), ("name", "stale")]

theorem neighbour_read_stale :
    (evictedNames.beforeQuery plainEnv "player" ["a", "b", "c"]).1.contents = ["b"] ∧
      evictedNames.dirtyData "player" "b" = some (named "b") ∧
      ((evictedNames.getMulti plainEnv "player" (fun _ ids => .rows (ids.map staleRow)) some ["a", "b", "c"]).1.result.lookup
        "b").bind (fun entity => entity.lookup "name") = some "stale" ∧
      ¬ evictedNames.SeesDirty "player" ["a", "b", "c"] (evictedNames.beforeQuery plainEnv "player" ["a", "b", "c"]).1.contents
        (evictedNames.beforeQuery plainEnv "player" ["a", "b", "c"]).2.1 := by
  have sent : (evictedNames.beforeQuery plainEnv "player" ["a", "b", "c"]).1.contents = ["b"] := by decide
  have dirty : evictedNames.dirtyData "player" "b" = some (named "b") := rfl
  refine ⟨sent, dirty, by decide, fun sees => ?_⟩
  have clean := ((sees.asked "b").mp (by rw [sent]; exact List.mem_singleton_self "b")).2.2
  cases dirty.symm.trans clean

section Outage

variable (env : Env V) (entityType : String) (rows : String → Option (EntityData V)) (cs : CacheSync V)

def CacheSync.Survives (entityIDs : List String) (answer : MultiAnswer V) : Prop :=
  answer.err ≠ none ∨ ∀ id ∈ entityIDs, ∀ data, (cs.get env (.row (rows id)) entityType id).1 = .ok data →
    answer.result.lookup id = some data

theorem get_in_outage (err : String) (outage : env.getFault = some err) (row : Option (EntityData V)) (id : String)
    (data : EntityData V) :
    (cs.get env (.row row) entityType id).1 = .ok data ↔ (cs.dirtyData entityType id).or row = some data := by
  simp only [CacheSync.get, RedisCache.get, outage, CacheSync.dirtyData]
  cases (cs.dirtyEntries.lookup (formatDirtyKey entityType id)).bind DirtyEntry.data with
  | some dirtyData => simp
  | none => cases row <;> simp

theorem get_multi_in_outage (err : String) (outage : env.getFault = some err) (query : String → List String → RowsOutcome V)
    (asString : V → Option String) (entityIDs : List String) :
    cs.getMulti env entityType query asString entityIDs = (⟨∅, none⟩, cs) := by
  rw [CacheSync.getMulti]
  split
  · rfl
  next filled =>
    have unread : cs.readCache env entityType entityIDs = { sync := cs } := by
      simp [CacheSync.readCache, RedisCache.mGet, filled, outage]
    rw [CacheSync.beforeQuery, unread]
    rfl

theorem outage_survived_iff (err : String) (outage : env.getFault = some err) (query : String → List String → RowsOutcome V)
    (asString : V → Option String) (entityIDs : List String) :
    cs.Survives env entityType rows entityIDs (cs.getMulti env entityType query asString entityIDs).1 ↔
      ∀ id ∈ entityIDs, cs.dirtyData entityType id = none ∧ rows id = none := by
  rw [get_multi_in_outage env entityType cs err outage]
  constructor
  · intro survives id listed
    rcases survives with failed | finds
    · exact absurd rfl failed
    · rw [← Option.or_eq_none_iff, Option.eq_none_iff_forall_ne_some]
      intro data found
      cases finds id listed data ((get_in_outage env entityType cs err outage (rows id) id data).mpr found)
  · intro nothing
    refine .inr fun id listed data found => ?_
    rw [get_in_outage env entityType cs err outage, Option.or_eq_none_iff.mpr (nothing id listed)] at found
    cases found

end Outage

def downEnv : Env String := { plainEnv with getFault := some "connection refused" }

theorem unknown_name_survives :
    evictedNames.Survives downEnv "player" (fun _ => none) ["d"]
      (evictedNames.getMulti downEnv "player" (fun _ _ => .rows []) some ["d"]).1 :=
  (outage_survived_iff downEnv "player" (fun _ => none) evictedNames "connection refused" rfl _ some ["d"]).mpr
    fun _ listed => List.mem_singleton.mp listed ▸ ⟨rfl, rfl⟩

theorem names_omitted_in_outage :
    (evictedNames.get downEnv (.row none) "player" "a").1 = .ok (named "a") ∧
      (evictedNames.get downEnv (.row (some (named "d"))) "player" "d").1 = .ok (named "d") ∧
      (evictedNames.getMulti downEnv "player" (fun _ ids => .rows (ids.map staleRow)) some ["a", "d"]).1 = ⟨∅, none⟩ ∧
      ¬ evictedNames.Survives downEnv "player" (fun id => if id = "d" then some (named "d") else none) ["a", "d"]
        (evictedNames.getMulti downEnv "player" (fun _ ids => .rows (ids.map staleRow)) some ["a", "d"]).1 := by
  refine ⟨rfl, rfl, rfl, ?_⟩
  intro survives
  rcases survives with failed | finds
  · exact failed rfl
  · cases finds "a" (by simp) (named "a") rfl

end MmoServer.Db
