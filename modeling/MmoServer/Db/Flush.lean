import MmoServer.Db.CacheSync
import MmoServer.Lib.Chunks
import MmoServer.Lib.Runs

set_option autoImplicit false

namespace MmoServer.Db

variable {V : Type}

def DirtyEntry.key (entry : DirtyEntry V) : String := formatDirtyKey entry.entityType entry.entityID

def DirtyEntry.select (entry : DirtyEntry V) : DirtyEntry V :=
  if entry.status = .new then { entry with status := .pending } else entry

structure Batch (V : Type) where
  entries : List (DirtyEntry V)
  commands : List (Command V)

def entriesByType (entriesToFlush : List (DirtyEntry V)) : GoMap String (List (DirtyEntry V)) :=
  (∅ : GoMap String (List (DirtyEntry V))).groupInto DirtyEntry.entityType entriesToFlush

def typeBatches (orders : Orders V) (batchSize : Int) (entityType : String) (entries : List (DirtyEntry V)) :
    Option (List (Batch V)) := do
  let slices ← Chunks.chunks entries batchSize
  return slices.map fun batchEntries => Batch.mk batchEntries (batchCommands orders entityType batchEntries)

-- The loops of Flush over the types and their batches. None is a panic, which
-- no batch precedes: it takes a batch size below one, and then no batch runs.
def planFlush (orders : Orders V) (batchSize : Int) (entriesToFlush : List (DirtyEntry V)) : Option (List (Batch V)) := do
  let batches ← (orders.types.apply (entriesByType entriesToFlush).pairs).mapM fun pair => typeBatches orders batchSize pair.1 pair.2
  return batches.flatten

inductive FlushResult where
  | ok
  | error (err : String)
  | panicked
deriving DecidableEq, Repr

namespace CacheSync

def selectEntries (order : Shuffle (DirtyEntry V)) (cs : CacheSync V) : List (DirtyEntry V) × CacheSync V :=
  (((order.apply cs.dirtyEntries.values).filter fun entry => entry.status = .new).map DirtyEntry.select,
    { cs with dirtyEntries := cs.dirtyEntries.mapValues DirtyEntry.select })

def removeFlushed (entries : List (DirtyEntry V)) (cs : CacheSync V) : CacheSync V :=
  { cs with dirtyEntries := cs.dirtyEntries.eraseAll (entries.map DirtyEntry.key) }

def flushBatch (batch : Batch V) (outcomes : List ExecOutcome) (cs : CacheSync V) :
    Except String Unit × List ExecOutcome × CacheSync V :=
  match cs.execAll batch.commands outcomes with
  | (.error err, rest, after) => (.error err, rest, after)
  | (.ok (), rest, after) => (.ok (), rest, after.removeFlushed batch.entries)

def flushBatches : List (Batch V) → List ExecOutcome → List String → CacheSync V → List String × CacheSync V
  | [], _, errs, cs => (errs, cs)
  | batch :: batches, outcomes, errs, cs =>
    match cs.flushBatch batch outcomes with
    | (.error err, rest, after) => flushBatches batches rest (errs ++ [err]) after
    | (.ok (), rest, after) => flushBatches batches rest errs after

def noteFlush (count : Nat) (cs : CacheSync V) : CacheSync V :=
  { cs with stats := { cs.stats with
      flushCount := cs.stats.flushCount + 1
      flushedEntries := cs.stats.flushedEntries + count } }

def flush (env : Env V) (cs : CacheSync V) : FlushResult × CacheSync V :=
  let (entriesToFlush, cs) := cs.selectEntries env.orders.dirty
  if entriesToFlush.length = 0 then (.ok, cs)
  else
    match planFlush env.orders cs.config.batchSize entriesToFlush with
    | none => (.panicked, cs)
    | some batches =>
      let (errs, cs) := cs.flushBatches batches env.outcomes []
      let cs := cs.noteFlush entriesToFlush.length
      match errs with
      | [] => (.ok, cs)
      | err :: _ => (.error err, cs)

end CacheSync

structure FlushTask (V : Type) where
  batches : List (Batch V)
  errs : List String
  selected : Nat

def CacheSync.applied (cs : CacheSync V) : List WriteID := cs.log.flatMap Command.writes

def Batch.pending (batch : Batch V) : List WriteID := batch.commands.flatMap Command.writes

def FlushTask.entries (task : FlushTask V) : List (DirtyEntry V) := task.batches.flatMap Batch.entries

def FlushTask.pending (task : FlushTask V) : List WriteID := task.batches.flatMap Batch.pending

theorem FlushTask.mem_entries (task : FlushTask V) (entry : DirtyEntry V) :
    entry ∈ task.entries ↔ ∃ batch ∈ task.batches, entry ∈ batch.entries :=
  List.mem_flatMap

structure Server (V : Type) where
  sync : CacheSync V
  tasks : GoMap Nat (FlushTask V) := ∅
  acked : List WriteID := []
  next : Nat := 0

inductive Action (V : Type) where
  | write (w : Write V) (env : Env V)
  | beginFlush (task : Nat) (orders : Orders V)
  | exec (task : Nat) (outcome : ExecOutcome)
  | remove (task : Nat)
  | finish (task : Nat)

namespace Server

def write (w : Write V) (env : Env V) (s : Server V) : Server V :=
  let (result, after) := w.run { env with ticket := s.next } s.sync
  { s with
    sync := after
    acked := match result with
      | .ok () => s.acked ++ w.writeIDs s.next
      | .error _ => s.acked
    next := s.next + 1 }

def beginFlush (task : Nat) (orders : Orders V) (s : Server V) : Server V :=
  let (entriesToFlush, after) := s.sync.selectEntries orders.dirty
  if entriesToFlush.length = 0 then { s with sync := after }
  else
    match planFlush orders after.config.batchSize entriesToFlush with
    | none => { s with sync := after }
    | some batches => { s with sync := after, tasks := s.tasks.insert task ⟨batches, [], entriesToFlush.length⟩ }

def step (s : Server V) : Action V → Option (Server V)
  | .write w env => some (s.write w env)
  | .beginFlush task orders =>
    match s.tasks.lookup task with
    | some _ => none
    | none => some (s.beginFlush task orders)
  | .exec task outcome =>
    match s.tasks.lookup task with
    | some ⟨⟨entries, command :: commands⟩ :: batches, errs, selected⟩ =>
      match command.verdict outcome with
      | .ok () => some { s with
          sync := { s.sync with log := s.sync.log ++ [command] }
          tasks := s.tasks.insert task ⟨⟨entries, commands⟩ :: batches, errs, selected⟩ }
      | .error err => some { s with tasks := s.tasks.insert task ⟨batches, errs ++ [err], selected⟩ }
    | _ => none
  | .remove task =>
    match s.tasks.lookup task with
    | some ⟨⟨entries, []⟩ :: batches, errs, selected⟩ => some { s with
        sync := s.sync.removeFlushed entries
        tasks := s.tasks.insert task ⟨batches, errs, selected⟩ }
    | _ => none
  | .finish task =>
    match s.tasks.lookup task with
    | some ⟨[], _, selected⟩ => some { s with
        sync := s.sync.noteFlush selected
        tasks := s.tasks.erase task }
    | _ => none

end Server

end MmoServer.Db
