import MmoServer.Db.WriteSpec

set_option autoImplicit false

namespace MmoServer.Db

variable {V : Type}

theorem mem_flush_entities (orders : Orders V) (entityType : String) (entities : GoMap String (Stamped V)) (x : WriteID) :
    x ∈ (flushEntities orders entityType entities).flatMap Command.writes ↔
      ∃ entityID entity, entities.lookup entityID = some entity ∧ x = ⟨⟨entityType, entityID⟩, entity.ticket⟩ := by
  simp only [flushEntities, List.mem_flatMap, List.mem_map, Shuffle.mem_apply, Prod.exists, AList.mem_pairs]
  constructor
  · rintro ⟨_, ⟨entityID, entity, found, rfl⟩, written⟩
    exact ⟨entityID, entity, found, List.mem_singleton.mp written⟩
  · rintro ⟨entityID, entity, found, rfl⟩
    exact ⟨_, ⟨entityID, entity, found, rfl⟩, List.mem_singleton_self _⟩

theorem mem_execute_delete_multi (entityType : String) (entityIDs : List (String × Nat)) (x : WriteID) :
    x ∈ (executeDeleteMulti entityType entityIDs : List (Command V)).flatMap Command.writes ↔
      ∃ pair ∈ entityIDs, x = ⟨⟨entityType, pair.1⟩, pair.2⟩ := by
  cases entityIDs with
  | nil => simp [executeDeleteMulti]
  | cons head tail => simp [executeDeleteMulti, eq_comm]

namespace CacheSync

theorem exec_all_log (commands : List (Command V)) (outcomes : List ExecOutcome) (cs : CacheSync V) :
    ∃ applied, applied <+: commands ∧ (cs.execAll commands outcomes).2.2 = { cs with log := cs.log ++ applied } ∧
      ((cs.execAll commands outcomes).1 = .ok () → applied = commands) := by
  induction commands generalizing outcomes cs with
  | nil => exact ⟨[], List.nil_prefix, by simp [execAll], fun _ => rfl⟩
  | cons command rest ih =>
    rw [execAll]
    cases command.verdict (outcomes.headD .ok) with
    | error err => exact ⟨[], List.nil_prefix, by simp, fun never => by cases never⟩
    | ok =>
      obtain ⟨applied, start, log, all⟩ := ih outcomes.tail { cs with log := cs.log ++ [command] }
      refine ⟨command :: applied, List.cons_prefix_cons.mpr ⟨rfl, start⟩, ?_, ?_⟩
      · rw [log]
        simp
      · intro succeeded
        rw [all succeeded]

theorem exec_now_log (env : Env V) (commands : List (Command V)) (cs : CacheSync V) :
    ∃ applied, (cs.execNow env commands).2 = { cs with log := cs.log ++ applied } ∧
      ((cs.execNow env commands).1 = .ok () → applied = commands) := by
  obtain ⟨applied, _, log, all⟩ := exec_all_log commands env.outcomes cs
  exact ⟨applied, log, all⟩

end CacheSync

namespace Write

variable (env : Env V) (w : Write V) (ticket : Nat)

theorem mem_commands (x : WriteID) : x ∈ (w.commands env).flatMap Command.writes ↔ x ∈ w.writeIDs env.ticket := by
  cases w with
  | set entityType entityID data opts =>
    simp only [commands, flushEntry, CacheSync.newEntry, mem_flush_entities, AList.lookup_insert_eq, writeIDs, items,
      Write.entityType]
    constructor
    · rintro ⟨other, entity, found, rfl⟩
      by_cases same : other = entityID
      · rw [if_pos same, Option.some_inj] at found
        simp [← found, same]
      · simp [same] at found
    · intro member
      exact ⟨entityID, ⟨data, env.ticket⟩, by simp, by simpa using member⟩
  | setMulti entityType entities opts =>
    have listed : ∀ pairs : List (String × EntityData V), x ∈ (pairs.map fun pair => (pair.1, some pair.2)).map
        (fun item : String × Option (EntityData V) => (⟨⟨entityType, item.1⟩, env.ticket⟩ : WriteID)) ↔
          ∃ entityID data, (entityID, data) ∈ pairs ∧ x = ⟨⟨entityType, entityID⟩, env.ticket⟩ := by
      intro pairs
      simp only [List.map_map, List.mem_map, Function.comp_apply, Prod.exists]
      exact exists_congr fun entityID => exists_congr fun data => and_congr_right fun _ => eq_comm
    simp only [writeIDs, items, Write.entityType, listed, AList.mem_pairs, commands]
    by_cases none : entities.size = 0
    · have empty : entities = ∅ := AList.ext (List.length_eq_zero_iff.mp none)
      simp [empty]
    · rw [if_neg none, mem_flush_entities]
      constructor
      · rintro ⟨entityID, entity, found, rfl⟩
        rw [AList.lookup_map_values, Option.map_eq_some_iff] at found
        obtain ⟨data, present, rfl⟩ := found
        exact ⟨entityID, data, present, rfl⟩
      · rintro ⟨entityID, data, present, rfl⟩
        exact ⟨entityID, ⟨data, env.ticket⟩, by simp [present], rfl⟩
  | delete entityType entityID opts => simp [commands, executeDelete, writeIDs, items, Write.entityType]
  | deleteMulti entityType entityIDs opts =>
    simp only [commands, mem_execute_delete_multi, writeIDs, items, Write.entityType, List.mem_map, List.map_map,
      Function.comp_apply]
    constructor
    · rintro ⟨_, ⟨entityID, member, rfl⟩, rfl⟩
      exact ⟨entityID, member, rfl⟩
    · rintro ⟨entityID, member, rfl⟩
      exact ⟨_, ⟨entityID, member, rfl⟩, rfl⟩

theorem run_immediate (cs : CacheSync V) (now : w.immediate = true) :
    ∃ cache applied, (w.run env cs).2 = { cs with cache := cache, log := cs.log ++ applied } ∧
      ((w.run env cs).1 = .ok () → applied = w.commands env) := by
  rcases run_ran env w cs with ⟨err, cache, failed, _⟩ | ⟨cache, _, ⟨_, ran⟩ | ⟨later, _⟩⟩
  · rw [failed]
    exact ⟨cache, [], by simp, fun never => by cases never⟩
  · rw [ran]
    obtain ⟨applied, log, all⟩ := CacheSync.exec_now_log env (w.commands env) { cs with cache := cache }
    exact ⟨cache, applied, log, all⟩
  · simp [now] at later

theorem items_unique (first second : String × Option (EntityData V)) (one : first ∈ w.items) (two : second ∈ w.items)
    (same : first.1 = second.1) : first = second := by
  cases w with
  | set entityType entityID data opts | delete entityType entityID opts =>
    rw [List.mem_singleton.mp one, List.mem_singleton.mp two]
  | setMulti entityType entities opts =>
    obtain ⟨⟨entityID, data⟩, present, rfl⟩ := List.mem_map.mp one
    obtain ⟨⟨other, second⟩, also, rfl⟩ := List.mem_map.mp two
    rw [AList.mem_pairs] at present also
    obtain rfl : entityID = other := same
    rw [present, Option.some_inj] at also
    rw [also]
  | deleteMulti entityType entityIDs opts =>
    obtain ⟨entityID, _, rfl⟩ := List.mem_map.mp one
    obtain ⟨other, _, rfl⟩ := List.mem_map.mp two
    obtain rfl : entityID = other := same
    rfl

theorem write_ids_only (first second : WriteID) (one : first ∈ w.writeIDs ticket) (two : second ∈ w.writeIDs ticket)
    (same : first.entity = second.entity) : first = second := by
  obtain ⟨item, _, rfl⟩ := List.mem_map.mp one
  obtain ⟨other, _, rfl⟩ := List.mem_map.mp two
  simpa using same

theorem latest_written (acked : List WriteID) (item : String × Option (EntityData V)) (member : item ∈ w.items) :
    History.latest WriteID.entity ⟨w.entityType, item.1⟩ (acked ++ w.writeIDs ticket) =
      some ⟨⟨w.entityType, item.1⟩, ticket⟩ := by
  have own : (⟨⟨w.entityType, item.1⟩, ticket⟩ : WriteID) ∈ w.writeIDs ticket := List.mem_map.mpr ⟨item, member, rfl⟩
  exact History.latest_append_only WriteID.entity _ _ _ own fun other also same => write_ids_only w ticket _ _ also own same

theorem latest_unwritten (acked : List WriteID) (entity : EntityKey) (absent : ∀ item ∈ w.items, ⟨w.entityType, item.1⟩ ≠ entity) :
    History.latest WriteID.entity entity (acked ++ w.writeIDs ticket) = History.latest WriteID.entity entity acked := by
  apply History.latest_append_absent
  intro x member
  obtain ⟨item, inItems, rfl⟩ := List.mem_map.mp member
  exact absent item inItems

structure Deferred (env : Env V) (w : Write V) (cs after : CacheSync V) : Prop where
  stored : ∀ item ∈ w.items, after.dirtyEntries.lookup (w.entry env item).key = some (w.entry env item)
  kept : ∀ key, (∀ item ∈ w.items, (w.entry env item).key ≠ key) → after.dirtyEntries.lookup key = cs.dirtyEntries.lookup key
  cached : Cached env w cs.cache after.cache
  log : after.log = cs.log
  config : after.config = cs.config
  quiet : after.spawned = cs.spawned ∨ cs.config.maxDirtySize ≤ after.dirtyEntries.size

theorem run_deferred (cs : CacheSync V) (later : w.immediate = false) :
    (∃ err cache, w.run env cs = (.error err, { cs with cache := cache }) ∧ Refused env w cs cache) ∨
      ∃ after, w.run env cs = (.ok (), after) ∧ Deferred env w cs after := by
  rcases run_ran env w cs with failed | ⟨cache, cached, ⟨now, _⟩ | ⟨_, spawned, entries, exactly, quiet, ran⟩⟩
  · exact .inl failed
  · simp [later] at now
  · refine .inr ⟨_, ran, ?_, ?_, cached, rfl, rfl, quiet⟩
    · intro item member
      refine AList.lookup_insert_pairs_mem _ _ ((w.entry env item).key, w.entry env item)
        (List.mem_map.mpr ⟨_, (exactly _).mpr ⟨item, member, rfl⟩, rfl⟩) ?_
      intro other paired same
      obtain ⟨dirty, listed, rfl⟩ := List.mem_map.mp paired
      obtain ⟨second, also, rfl⟩ := (exactly dirty).mp listed
      have ids : second.1 = item.1 := format_dirty_key_inj w.entityType _ _ same
      rw [items_unique w second item also member ids]
      rfl
    · intro key absent
      apply AList.lookup_insert_pairs_absent
      intro pair paired
      obtain ⟨dirty, listed, rfl⟩ := List.mem_map.mp paired
      obtain ⟨item, member, rfl⟩ := (exactly dirty).mp listed
      exact absent item member

section

variable {env : Env V} {w : Write V} {cs after : CacheSync V} (change : Deferred env w cs after)

include change

theorem Deferred.origin (key : String) (entry : DirtyEntry V) (found : after.dirtyEntries.lookup key = some entry) :
    (∃ item ∈ w.items, entry = w.entry env item ∧ entry.key = key) ∨
      (cs.dirtyEntries.lookup key = some entry ∧ ∀ item ∈ w.items, (w.entry env item).key ≠ key) := by
  by_cases written : ∃ item ∈ w.items, (w.entry env item).key = key
  · obtain ⟨item, member, rfl⟩ := written
    rw [change.stored item member, Option.some_inj] at found
    exact .inl ⟨item, member, found.symm, by rw [found]⟩
  · have absent : ∀ item ∈ w.items, (w.entry env item).key ≠ key := fun item member same => written ⟨item, member, same⟩
    exact .inr ⟨change.kept key absent ▸ found, absent⟩

theorem Deferred.keeps_foreign
    (own : ∀ item ∈ w.items, ∀ old ∈ cs.dirtyEntries.lookup (formatDirtyKey w.entityType item.1), old.entity = ⟨w.entityType, item.1⟩)
    (key : String) (entry : DirtyEntry V) (found : cs.dirtyEntries.lookup key = some entry)
    (foreign : ∀ item ∈ w.items, ⟨w.entityType, item.1⟩ ≠ entry.entity) : after.dirtyEntries.lookup key = some entry := by
  rw [change.kept key, found]
  intro item member same
  rw [← same] at found
  exact foreign item member (own item member entry found).symm

end

end Write

end MmoServer.Db
