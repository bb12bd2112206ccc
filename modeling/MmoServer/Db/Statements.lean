import MmoServer.Lib.GoMap

set_option autoImplicit false

namespace MmoServer.Db

abbrev EntityData (V : Type) := GoMap String V

structure EntityKey where
  entityType : String
  entityID : String
deriving DecidableEq, Repr

structure WriteID where
  entity : EntityKey
  ticket : Nat
deriving DecidableEq, Repr

inductive DirtyStatus where
  | new
  | pending
  | flushing
deriving DecidableEq, Repr

-- The data of a deletion is the untyped nil; a nil EntityData is data. An entry
-- is never changed after it is stored but for its status, and the ticket tells
-- the objects of different calls apart, as their pointers do.
structure DirtyEntry (V : Type) where
  entityType : String
  entityID : String
  data : Option (EntityData V)
  modifiedAt : Int
  status : DirtyStatus
  version : Int
  tags : List String
  ticket : Nat
deriving DecidableEq

def DirtyEntry.entity {V : Type} (entry : DirtyEntry V) : EntityKey := ⟨entry.entityType, entry.entityID⟩

def DirtyEntry.write {V : Type} (entry : DirtyEntry V) : WriteID := ⟨entry.entity, entry.ticket⟩

def formatCacheKey (entityType entityID : String) : String := "entity:" ++ entityType ++ ":" ++ entityID

def formatDirtyKey (entityType entityID : String) : String := entityType ++ ":" ++ entityID

inductive Arg (V : Type) where
  | value (value : V)
  | id (entityID : String)
deriving DecidableEq, Repr

structure Command (V : Type) where
  sql : String
  args : List (Arg V)
  refusedText : String
  failedText : String
  writes : List WriteID
deriving DecidableEq

inductive ExecOutcome where
  | ok
  | refused (err : String)
  | failed (err : String)
deriving DecidableEq, Repr

def Command.verdict {V : Type} (command : Command V) : ExecOutcome → Except String Unit
  | .ok => .ok ()
  | .refused err => .error (command.refusedText ++ err)
  | .failed err => .error (command.failedText ++ err)

structure Stamped (V : Type) where
  data : EntityData V
  ticket : Nat

structure Orders (V : Type) where
  fields : Shuffle (String × V)
  entities : Shuffle (String × Stamped V)
  cacheItems : Shuffle (String × EntityData V)
  dirty : Shuffle (DirtyEntry V)
  types : Shuffle (String × List (DirtyEntry V))

def Orders.listed (V : Type) : Orders V := ⟨.listed, .listed, .listed, .listed, .listed⟩

section Commands

variable {V : Type} (orders : Orders V) (entityType : String)

def placeholder (index : Nat) : String := "$" ++ toString (index + 1)

def updateCommand (entityID : String) (entity : Stamped V) : Command V :=
  let assigned := (orders.fields.apply entity.data.pairs).filter fun pair => pair.1 ≠ "id"
  { sql := "UPDATE " ++ entityType ++ " SET " ++ ", ".intercalate (assigned.map Prod.fst) ++ " = " ++
      ", ".intercalate ((List.range assigned.length).map placeholder) ++ " WHERE id = " ++ placeholder assigned.length
    args := assigned.map (fun pair => .value pair.2) ++ [.id entityID]
    refusedText := "执行更新失败: "
    failedText := "更新实体失败: "
    writes := [⟨⟨entityType, entityID⟩, entity.ticket⟩] }

def flushEntities (entities : GoMap String (Stamped V)) : List (Command V) :=
  (orders.entities.apply entities.pairs).map fun pair => updateCommand orders entityType pair.1 pair.2

def executeDelete (entityID : String) (ticket : Nat) : Command V where
  sql := "DELETE FROM " ++ entityType ++ " WHERE id = $1"
  args := [.id entityID]
  refusedText := "执行删除失败: "
  failedText := "删除实体失败: "
  writes := [⟨⟨entityType, entityID⟩, ticket⟩]

def executeDeleteMulti (entityIDs : List (String × Nat)) : List (Command V) :=
  if entityIDs.length = 0 then []
  else
    [{ sql := "DELETE FROM " ++ entityType ++ " WHERE id IN (" ++
        ", ".intercalate ((List.range entityIDs.length).map placeholder) ++ ")"
       args := entityIDs.map fun pair => .id pair.1
       refusedText := "执行批量删除失败: "
       failedText := "批量删除实体失败: "
       writes := entityIDs.map fun pair => ⟨⟨entityType, pair.1⟩, pair.2⟩ }]

def flushEntry (entry : DirtyEntry V) : List (Command V) :=
  match entry.data with
  | none => [executeDelete entry.entityType entry.entityID entry.ticket]
  | some data => flushEntities orders entry.entityType ((∅ : GoMap String (Stamped V)).insert entry.entityID ⟨data, entry.ticket⟩)

def batchCommands (entries : List (DirtyEntry V)) : List (Command V) :=
  let updates := entries.filterMap fun entry => entry.data.map fun data => (entry.entityID, Stamped.mk data entry.ticket)
  let deleteIDs := (entries.filter fun entry => entry.data.isNone).map fun entry => (entry.entityID, entry.ticket)
  (if updates.length > 0 then flushEntities orders entityType ((∅ : GoMap String (Stamped V)).insertPairs updates) else []) ++
    (if deleteIDs.length > 0 then executeDeleteMulti entityType deleteIDs else [])

end Commands

end MmoServer.Db
