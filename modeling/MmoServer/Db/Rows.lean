import MmoServer.Db.FlushSteps
import MmoServer.Db.SqlStatements

set_option autoImplicit false

namespace MmoServer.Db

variable {V : Type}

abbrev Rows (V : Type) := EntityKey → Option (EntityData V)

def Statement.apply (rows : Rows V) : Statement V → Rows V × Nat
  | .update table assigned entityID =>
    match rows ⟨table, entityID⟩ with
    | none => (rows, 0)
    | some row => (Function.update rows ⟨table, entityID⟩ (some (row.insertPairs assigned)), 1)
  | .delete table entityIDs =>
    (fun key => if key.entityType = table ∧ key.entityID ∈ entityIDs then none else rows key,
      (entityIDs.dedup.filter fun entityID => (rows ⟨table, entityID⟩).isSome).length)

def applyAll (statements : List (Statement V)) (rows : Rows V) : Rows V :=
  statements.foldl (fun rows statement => (statement.apply rows).1) rows

section Statements

variable (orders : Orders V) (entityType : String)

def batchStatements (entries : List (DirtyEntry V)) : List (Statement V) :=
  let updates := entries.filterMap fun entry => entry.data.map fun data => (entry.entityID, Stamped.mk data entry.ticket)
  let deleteIDs := (entries.filter fun entry => entry.data.isNone).map DirtyEntry.entityID
  (if updates.length > 0 then
    (orders.entities.apply ((∅ : GoMap String (Stamped V)).insertPairs updates).pairs).map fun pair =>
      updateStatement orders entityType pair.1 pair.2.data
    else []) ++
    (if deleteIDs.length > 0 then [.delete entityType deleteIDs] else [])

theorem batch_statements_args (entries : List (DirtyEntry V)) :
    (batchCommands orders entityType entries).map Command.args = (batchStatements orders entityType entries).map Statement.args := by
  simp only [batchCommands, batchStatements, List.map_append, List.length_map]
  congr 1
  · split
    · rw [flushEntities, List.map_map, List.map_map]
      rfl
    · rfl
  · split
    · rename_i some_
      rw [executeDeleteMulti, if_neg (by simpa using Nat.pos_iff_ne_zero.mp some_)]
      simp [Statement.args]
    · rfl

theorem mem_batch_statements (entries : List (DirtyEntry V)) (statement : Statement V)
    (member : statement ∈ batchStatements orders entityType entries) :
    (∃ entry ∈ entries, ∃ data, entry.data = some data ∧ statement = updateStatement orders entityType entry.entityID data) ∨
      ∃ entityIDs, statement = .delete entityType entityIDs ∧
        ∀ entityID ∈ entityIDs, ∃ entry ∈ entries, entry.entityID = entityID ∧ entry.data = none := by
  rcases List.mem_append.mp member with update | delete
  · split at update
    · obtain ⟨pair, listed, rfl⟩ := List.mem_map.mp update
      have found := (AList.mem_pairs _ pair.1 pair.2).mp ((Shuffle.mem_apply _ _ _).mp listed)
      rcases AList.insert_pairs_origin _ _ _ _ found with paired | absent
      · obtain ⟨entry, inside, made⟩ := List.mem_filterMap.mp paired
        obtain ⟨data, stored, same⟩ := Option.map_eq_some_iff.mp made
        rw [← (Prod.mk.inj same).1, ← (Prod.mk.inj same).2]
        exact .inl ⟨entry, inside, data, stored, rfl⟩
      · cases absent
    · cases update
  · split at delete
    · refine .inr ⟨_, List.mem_singleton.mp delete, fun entityID listed => ?_⟩
      obtain ⟨entry, inside, own⟩ := List.mem_map.mp listed
      obtain ⟨present, none⟩ := List.mem_filter.mp inside
      exact ⟨entry, present, own, Option.isNone_iff_eq_none.mp none⟩
    · cases delete

theorem update_in_batch (entries : List (DirtyEntry V)) (entry : DirtyEntry V) (data : EntityData V) (member : entry ∈ entries)
    (updates : entry.data = some data)
    (distinct : ∀ first ∈ entries, ∀ second ∈ entries, first.entityID = second.entityID → first = second) :
    updateStatement orders entityType entry.entityID data ∈ batchStatements orders entityType entries := by
  have listed := (lookup_updates entries distinct entry.entityID ⟨data, entry.ticket⟩).mpr
    ⟨entry, member, data, updates, rfl, rfl⟩
  have some_ : (entries.filterMap fun entry => entry.data.map fun data => (entry.entityID, Stamped.mk data entry.ticket)).length > 0 :=
    List.length_pos_of_mem (List.mem_filterMap.mpr ⟨entry, member, by rw [updates]; rfl⟩)
  refine List.mem_append_left _ ?_
  rw [if_pos some_]
  refine List.mem_map.mpr ⟨(entry.entityID, ⟨data, entry.ticket⟩), ?_, rfl⟩
  rw [Shuffle.mem_apply]
  exact (AList.mem_pairs _ _ _).mpr listed

end Statements

section Effects

variable (key : EntityKey)

def Statement.Touches : Statement V → Prop
  | .update table _ entityID => key = ⟨table, entityID⟩
  | .delete table entityIDs => key.entityType = table ∧ key.entityID ∈ entityIDs

theorem apply_untouched (statement : Statement V) (rows : Rows V) (apart : ¬ statement.Touches key) :
    (statement.apply rows).1 key = rows key := by
  cases statement with
  | update table assigned entityID =>
    simp only [Statement.apply]
    cases rows ⟨table, entityID⟩ with
    | none => rfl
    | some row => exact Function.update_of_ne apart _ _
  | delete table entityIDs => exact if_neg apart

theorem apply_absent (statement : Statement V) (rows : Rows V) (absent : rows key = none) :
    (statement.apply rows).1 key = none := by
  by_cases touches : statement.Touches key
  · cases statement with
    | update table assigned entityID =>
      cases touches
      simp only [Statement.apply, absent]
    | delete table entityIDs => exact if_pos touches
  · rw [apply_untouched key statement rows touches, absent]

theorem apply_all_absent (statements : List (Statement V)) (rows : Rows V) (absent : rows key = none) :
    applyAll statements rows key = none := by
  induction statements generalizing rows with
  | nil => exact absent
  | cons statement rest ih => exact ih _ (apply_absent key statement rows absent)

def HoldsData (data : EntityData V) (row : EntityData V) : Prop :=
  ∀ field value, data.lookup field = some value → field ≠ "id" → row.lookup field = some value

theorem assigned_holds (orders : Orders V) (data row : EntityData V) :
    HoldsData data (row.insertPairs (assignedFields orders data)) := by
  intro field value stored other
  refine AList.lookup_insert_pairs_mem _ row (field, value) ((mem_assigned orders data field value).mpr ⟨stored, other⟩) ?_
  rintro ⟨second, also⟩ member same
  have again := ((mem_assigned orders data second also).mp member).1
  cases same
  rw [stored, Option.some_inj] at again
  rw [again]

theorem apply_all_updates (orders : Orders V) (data : EntityData V) (statements : List (Statement V)) (rows : Rows V)
    (row : EntityData V) (present : rows key = some row)
    (only : ∀ statement ∈ statements, statement.Touches key →
      statement = updateStatement orders key.entityType key.entityID data)
    (reached : updateStatement orders key.entityType key.entityID data ∈ statements ∨ HoldsData data row) :
    ∃ after, applyAll statements rows key = some after ∧ HoldsData data after := by
  induction statements generalizing rows row with
  | nil =>
    rcases reached with never | holds
    · cases never
    · exact ⟨row, present, holds⟩
  | cons statement rest ih =>
    have later := fun other member => only other (List.mem_cons_of_mem _ member)
    by_cases touches : statement.Touches key
    · have own := only statement List.mem_cons_self touches
      have updated : (statement.apply rows).1 key = some (row.insertPairs (assignedFields orders data)) := by
        rw [own, updateStatement]
        simp only [Statement.apply, present, Function.update_self]
      exact ih _ _ updated later (.inr (assigned_holds orders data row))
    · refine ih _ row ((apply_untouched key statement rows touches).trans present) later ?_
      rcases reached with member | holds
      · rcases List.mem_cons.mp member with here | there
        · exact absurd (here ▸ rfl) touches
        · exact .inl there
      · exact .inr holds

end Effects

end MmoServer.Db
