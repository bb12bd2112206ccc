import MmoServer.Db.CacheSync

set_option autoImplicit false

namespace MmoServer.Db

variable {V : Type}

inductive Statement (V : Type) where
  | update (table : String) (assigned : List (String × V)) (entityID : String)
  | delete (table : String) (entityIDs : List String)
deriving DecidableEq

namespace Statement

def assignment (index : Nat) (pair : String × V) : String := pair.1 ++ " = " ++ placeholder index

def sql : Statement V → String
  | .update table assigned _ =>
    "UPDATE " ++ table ++ " SET " ++ ", ".intercalate (assigned.mapIdx assignment) ++ " WHERE id = " ++
      placeholder assigned.length
  | .delete table entityIDs =>
    "DELETE FROM " ++ table ++ " WHERE id IN (" ++ ", ".intercalate ((List.range entityIDs.length).map placeholder) ++ ")"

def args : Statement V → List (Arg V)
  | .update _ assigned entityID => assigned.map (fun pair => .value pair.2) ++ [.id entityID]
  | .delete _ entityIDs => entityIDs.map .id

end Statement

section Updates

variable (orders : Orders V) (entityType entityID : String)

def assignedFields (data : EntityData V) : List (String × V) :=
  (orders.fields.apply data.pairs).filter fun pair => pair.1 ≠ "id"

def updateStatement (data : EntityData V) : Statement V := .update entityType (assignedFields orders data) entityID

theorem mem_assigned (data : EntityData V) (field : String) (value : V) :
    (field, value) ∈ assignedFields orders data ↔ data.lookup field = some value ∧ field ≠ "id" := by
  simp [assignedFields, AList.mem_pairs]

theorem update_args (entity : Stamped V) :
    (updateCommand orders entityType entityID entity).args = (updateStatement orders entityType entityID entity.data).args :=
  rfl

theorem set_clause_apart (first second : String × V) (rest : List (String × V)) (code sql : String) :
    ", ".intercalate ((first :: second :: rest).map Prod.fst) ++ code ≠
      ", ".intercalate ((first :: second :: rest).mapIdx Statement.assignment) ++ sql := by
  rw [List.map_cons, List.map_cons, String.intercalate_cons_cons, List.mapIdx_cons, List.mapIdx_cons,
    String.intercalate_cons_cons, Statement.assignment]
  simp only [String.append_assoc]
  rw [ne_eq, String.append_right_inj, ← String.toList_inj]
  simp [String.toList_append]

theorem update_sql_iff (entity : Stamped V) (filled : assignedFields orders entity.data ≠ []) :
    (updateCommand orders entityType entityID entity).sql = (updateStatement orders entityType entityID entity.data).sql ↔
      (assignedFields orders entity.data).length = 1 := by
  have code : (updateCommand orders entityType entityID entity).sql =
      "UPDATE " ++ entityType ++ " SET " ++ ", ".intercalate ((assignedFields orders entity.data).map Prod.fst) ++ " = " ++
        ", ".intercalate ((List.range (assignedFields orders entity.data).length).map placeholder) ++ " WHERE id = " ++
        placeholder (assignedFields orders entity.data).length := rfl
  rw [code, updateStatement, Statement.sql]
  cases fields : assignedFields orders entity.data with
  | nil => exact absurd fields filled
  | cons first rest =>
    cases rest with
    | nil => simp [Statement.assignment, String.append_assoc]
    | cons second rest =>
      apply iff_of_false
      · simp only [String.append_assoc]
        rw [String.append_right_inj, String.append_right_inj, String.append_right_inj]
        exact set_clause_apart first second rest _ _
      · simp

theorem update_flushed (entities : GoMap String (Stamped V)) (entity : Stamped V)
    (present : entities.lookup entityID = some entity) :
    updateCommand orders entityType entityID entity ∈ flushEntities orders entityType entities := by
  refine List.mem_map.mpr ⟨(entityID, entity), ?_, rfl⟩
  rw [Shuffle.mem_apply]
  exact (AList.mem_pairs entities entityID entity).mpr present

theorem flushed_update_well_formed_iff (entities : GoMap String (Stamped V)) (entity : Stamped V)
    (present : entities.lookup entityID = some entity) (field : String) (value : V)
    (stored : entity.data.lookup field = some value) (other : field ≠ "id") :
    ∃ command ∈ flushEntities orders entityType entities,
      command.args = (updateStatement orders entityType entityID entity.data).args ∧
        (command.sql = (updateStatement orders entityType entityID entity.data).sql ↔
          (assignedFields orders entity.data).length = 1) := by
  have filled : assignedFields orders entity.data ≠ [] :=
    List.ne_nil_of_mem ((mem_assigned orders entity.data field value).mpr ⟨stored, other⟩)
  exact ⟨updateCommand orders entityType entityID entity, update_flushed orders entityType entityID entities entity present,
    update_args orders entityType entityID entity, update_sql_iff orders entityType entityID entity filled⟩

end Updates

def oneName : GoMap String (Stamped String) := (∅ : GoMap String (Stamped String)).insert "p1" ⟨named "a", 0⟩

theorem one_name_updated :
    ∃ command ∈ flushEntities (.listed String) "player" oneName,
      command.args = (updateStatement (.listed String) "player" "p1" (named "a")).args ∧
        command.sql = (updateStatement (.listed String) "player" "p1" (named "a")).sql := by
  obtain ⟨command, member, args, sql⟩ := flushed_update_well_formed_iff (.listed String) "player" "p1" oneName ⟨named "a", 0⟩
    rfl "name" "a" rfl (by decide)
  exact ⟨command, member, args, sql.mpr rfl⟩

def ranked : EntityData String := ((∅ : GoMap String String).insert "level" "7").insert "name" "a"

theorem two_fields_malformed :
    (flushEntities (.listed String) "player" ((∅ : GoMap String (Stamped String)).insert "p1" ⟨ranked, 0⟩)).map Command.sql =
        ["UPDATE player SET name, level = $1, $2 WHERE id = $3"] ∧
      (updateStatement (.listed String) "player" "p1" ranked).sql = "UPDATE player SET name = $1, level = $2 WHERE id = $3" := by
  decide +kernel

end MmoServer.Db
