import MmoServer.Db.Statements
import MmoServer.Redis.Cache

set_option autoImplicit false

namespace MmoServer.Db

open Redis

structure CacheSyncConfig where
  batchSize : Int
  cacheTTL : Int
  maxDirtySize : Int

def defaultCacheSyncConfig : CacheSyncConfig where
  batchSize := 100
  cacheTTL := 3600 * 1000000000
  maxDirtySize := 1000

structure CacheSyncStats where
  cacheHits : Int := 0
  cacheMisses : Int := 0
  flushCount : Int := 0
  flushedEntries : Int := 0

structure WriteOptions where
  immediate : Bool := false
  version : Int := 0
  tags : List String := []

-- The log is the database's side: the statements it has applied, in order.
structure CacheSync (V : Type) where
  config : CacheSyncConfig
  cache : RedisCache (EntityData V)
  dirtyEntries : GoMap String (DirtyEntry V) := ∅
  stats : CacheSyncStats := {}
  log : List (Command V) := []
  spawned : Nat := 0

-- What a call meets: its number, the clock, the orders of map loops, faults of
-- the cache's client, the answers to its statements (beyond the list, success).
structure Env (V : Type) where
  ticket : Nat
  now : Int
  orders : Orders V
  getFault : Option String := none
  setFault : Option Fault := none
  deleteFault : String → Option Fault := fun _ => none
  outcomes : List ExecOutcome := []

inductive QueryOutcome (V : Type) where
  | refused (err : String)
  | failed (err : String)
  | row (found : Option (EntityData V))

namespace CacheSync

variable {V : Type} (env : Env V)

def execAll : List (Command V) → List ExecOutcome → CacheSync V → Except String Unit × List ExecOutcome × CacheSync V
  | [], outcomes, cs => (.ok (), outcomes, cs)
  | command :: rest, outcomes, cs =>
    match command.verdict (outcomes.headD .ok) with
    | .error err => (.error err, outcomes.tail, cs)
    | .ok () => execAll rest outcomes.tail { cs with log := cs.log ++ [command] }

def execNow (commands : List (Command V)) (cs : CacheSync V) : Except String Unit × CacheSync V :=
  let (result, _, after) := cs.execAll commands env.outcomes
  (result, after)

def newEntry (entityType entityID : String) (data : Option (EntityData V)) (opts : WriteOptions) : DirtyEntry V where
  entityType := entityType
  entityID := entityID
  data := data
  modifiedAt := env.now
  status := .new
  version := opts.version
  tags := opts.tags
  ticket := env.ticket

def markDirty (entries : List (DirtyEntry V)) (cs : CacheSync V) : CacheSync V :=
  let keyed := entries.map fun entry => (formatDirtyKey entry.entityType entry.entityID, entry)
  { cs with dirtyEntries := cs.dirtyEntries.insertPairs keyed }

def triggerFlush (cs : CacheSync V) : CacheSync V :=
  if (cs.dirtyEntries.size : Int) ≥ cs.config.maxDirtySize then { cs with spawned := cs.spawned + 1 } else cs

def set (entityType entityID : String) (data : EntityData V) (opts : Option WriteOptions) (cs : CacheSync V) :
    Except String Unit × CacheSync V :=
  let opts := opts.getD {}
  let dirtyEntry := newEntry env entityType entityID (some data) opts
  match cs.cache.set env.setFault (formatCacheKey entityType entityID) data cs.config.cacheTTL with
  | (.error err, cache) => (.error ("写入缓存失败: " ++ err), { cs with cache := cache })
  | (.ok (), cache) =>
    let cs := { cs with cache := cache }
    if opts.immediate then cs.execNow env (flushEntry env.orders dirtyEntry)
    else (.ok (), (cs.markDirty [dirtyEntry]).triggerFlush)

def setMulti (entityType : String) (entities : GoMap String (EntityData V)) (opts : Option WriteOptions)
    (cs : CacheSync V) : Except String Unit × CacheSync V :=
  if entities.size = 0 then (.ok (), cs)
  else
    let opts := opts.getD {}
    let listed := env.orders.cacheItems.apply entities.pairs
    let cacheItems := (∅ : GoMap String (EntityData V)).insertPairs
      (listed.map fun pair => (formatCacheKey entityType pair.1, pair.2))
    match cs.cache.mSet env.orders.cacheItems env.setFault cacheItems with
    | (.error err, cache) => (.error ("批量写入缓存失败: " ++ err), { cs with cache := cache })
    | (.ok (), cache) =>
      let cs := { cs with cache := cache }
      if opts.immediate then
        cs.execNow env (flushEntities env.orders entityType (entities.mapValues fun data => ⟨data, env.ticket⟩))
      else
        (.ok (), (cs.markDirty
          (listed.map fun pair => newEntry env entityType pair.1 (some pair.2) opts)).triggerFlush)

def uncache (key : String) (cs : CacheSync V) : CacheSync V :=
  { cs with cache := (cs.cache.delete (env.deleteFault key) key).2 }

def delete (entityType entityID : String) (opts : Option WriteOptions) (cs : CacheSync V) :
    Except String Unit × CacheSync V :=
  let opts := opts.getD {}
  let cs := cs.uncache env (formatCacheKey entityType entityID)
  if opts.immediate then cs.execNow env [executeDelete entityType entityID env.ticket]
  else (.ok (), cs.markDirty [newEntry env entityType entityID none opts])

def deleteMulti (entityType : String) (entityIDs : List String) (opts : Option WriteOptions) (cs : CacheSync V) :
    Except String Unit × CacheSync V :=
  if entityIDs.length = 0 then (.ok (), cs)
  else
    let opts := opts.getD {}
    let cs := entityIDs.foldl (fun cs entityID => cs.uncache env (formatCacheKey entityType entityID)) cs
    if opts.immediate then
      cs.execNow env (executeDeleteMulti entityType (entityIDs.map fun entityID => (entityID, env.ticket)))
    else (.ok (), cs.markDirty (entityIDs.map fun entityID => newEntry env entityType entityID none opts))

-- Get does not look at the error of its own cache writes.
def remember (key : String) (data : EntityData V) (cs : CacheSync V) : CacheSync V :=
  { cs with cache := (cs.cache.set env.setFault key data cs.config.cacheTTL).2 }

-- The asynchronous layer puts its own text before the error of a handler.
def notFound (entityType entityID : String) : String :=
  "操作失败: " ++ "实体 " ++ entityType ++ ":" ++ entityID ++ " 不存在"

def get (query : QueryOutcome V) (entityType entityID : String) (cs : CacheSync V) :
    Except String (EntityData V) × CacheSync V :=
  let cacheKey := formatCacheKey entityType entityID
  match cs.cache.get env.getFault cacheKey with
  | .ok data => (.ok data, { cs with stats := { cs.stats with cacheHits := cs.stats.cacheHits + 1 } })
  | .error _ =>
    match (cs.dirtyEntries.lookup (formatDirtyKey entityType entityID)).bind DirtyEntry.data with
    | some dirtyData => (.ok dirtyData, cs.remember env cacheKey dirtyData)
    | none =>
      let cs := { cs with stats := { cs.stats with cacheMisses := cs.stats.cacheMisses + 1 } }
      match query with
      | .refused err => (.error ("查询实体失败: " ++ err), cs)
      | .failed err => (.error ("查询实体失败: " ++ err), cs)
      | .row none => (.error ("查询实体失败: " ++ notFound entityType entityID), cs)
      | .row (some entity) => (.ok entity, cs.remember env cacheKey entity)

end CacheSync

inductive Write (V : Type) where
  | set (entityType entityID : String) (data : EntityData V) (opts : Option WriteOptions)
  | setMulti (entityType : String) (entities : GoMap String (EntityData V)) (opts : Option WriteOptions)
  | delete (entityType entityID : String) (opts : Option WriteOptions)
  | deleteMulti (entityType : String) (entityIDs : List String) (opts : Option WriteOptions)

namespace Write

variable {V : Type}

def run (env : Env V) (cs : CacheSync V) : Write V → Except String Unit × CacheSync V
  | set entityType entityID data opts => cs.set env entityType entityID data opts
  | setMulti entityType entities opts => cs.setMulti env entityType entities opts
  | delete entityType entityID opts => cs.delete env entityType entityID opts
  | deleteMulti entityType entityIDs opts => cs.deleteMulti env entityType entityIDs opts

def entityType : Write V → String
  | set entityType _ _ _ => entityType
  | setMulti entityType _ _ => entityType
  | delete entityType _ _ => entityType
  | deleteMulti entityType _ _ => entityType

def opts : Write V → WriteOptions
  | set _ _ _ opts => opts.getD {}
  | setMulti _ _ opts => opts.getD {}
  | delete _ _ opts => opts.getD {}
  | deleteMulti _ _ opts => opts.getD {}

def items : Write V → List (String × Option (EntityData V))
  | set _ entityID data _ => [(entityID, some data)]
  | setMulti _ entities _ => entities.pairs.map fun pair => (pair.1, some pair.2)
  | delete _ entityID _ => [(entityID, none)]
  | deleteMulti _ entityIDs _ => entityIDs.map fun entityID => (entityID, none)

def immediate (w : Write V) : Bool := w.opts.immediate

def entry (env : Env V) (w : Write V) (item : String × Option (EntityData V)) : DirtyEntry V :=
  CacheSync.newEntry env w.entityType item.1 item.2 w.opts

def writeIDs (ticket : Nat) (w : Write V) : List WriteID := w.items.map fun item => ⟨⟨w.entityType, item.1⟩, ticket⟩

end Write

def named (name : String) : EntityData String := (∅ : GoMap String String).insert "name" name

def nameJSON (name : String) : String := "\x7b\"name\":\"" ++ name ++ "\"\x7d"

def nameCache : RedisCache (EntityData String) where
  codec :=
    { marshal := fun data => .ok (nameJSON ((data.lookup "name").getD ""))
      unmarshal := fun val => match ["a", "b", "c"].find? fun name => nameJSON name = val with
        | some name => .ok (named name)
        | none => .error "invalid character"
      sprint := fun data => "map[name:" ++ (data.lookup "name").getD "" ++ "]" }
  defaultTTL := 60
  enableJSON := true
  items := ∅

def nameSync : CacheSync String where
  config := defaultCacheSyncConfig
  cache := nameCache

def plainEnv : Env String where
  ticket := 0
  now := 0
  orders := .listed String

end MmoServer.Db
