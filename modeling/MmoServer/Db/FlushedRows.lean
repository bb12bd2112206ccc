import MmoServer.Db.Rows

set_option autoImplicit false

namespace MmoServer.Db

open CacheSync

variable {V : Type}

section Stored

-- The database runs the statements of a batch up to the first that fails.
-- Success is all the flush asks for; the number of rows is not looked at.
def storeAll : List (Statement V) → List ExecOutcome → Rows V → List ExecOutcome × Rows V
  | [], outcomes, rows => (outcomes, rows)
  | statement :: rest, outcomes, rows =>
    match outcomes.headD .ok with
    | .ok => storeAll rest outcomes.tail (statement.apply rows).1
    | _ => (outcomes.tail, rows)

def Batch.entityType (batch : Batch V) : String := (batch.entries.head?.map DirtyEntry.entityType).getD ""

def Batch.statements (orders : Orders V) (batch : Batch V) : List (Statement V) :=
  batchStatements orders batch.entityType batch.entries

def storeBatches (orders : Orders V) : List (Batch V) → List ExecOutcome → Rows V → Rows V
  | [], _, rows => rows
  | batch :: batches, outcomes, rows =>
    let (rest, rows) := storeAll (batch.statements orders) outcomes rows
    storeBatches orders batches rest rows

def CacheSync.flushRows (env : Env V) (cs : CacheSync V) (rows : Rows V) : Rows V :=
  let (entriesToFlush, cs) := cs.selectEntries env.orders.dirty
  if entriesToFlush.length = 0 then rows
  else
    match planFlush env.orders cs.config.batchSize entriesToFlush with
    | none => rows
    | some batches => storeBatches env.orders batches env.outcomes rows

end Stored

theorem exec_all_stored (commands : List (Command V)) (statements : List (Statement V))
    (same : statements.length = commands.length) (outcomes : List ExecOutcome) (cs : CacheSync V) (rows : Rows V) :
    (storeAll statements outcomes rows).1 = (cs.execAll commands outcomes).2.1 ∧
      ∃ count, (cs.execAll commands outcomes).2.2.log = cs.log ++ commands.take count ∧
        (storeAll statements outcomes rows).2 = applyAll (statements.take count) rows ∧
        ((cs.execAll commands outcomes).1 = .ok () → commands.length ≤ count) := by
  induction commands generalizing statements outcomes cs rows with
  | nil =>
    cases List.length_eq_zero_iff.mp same
    exact ⟨rfl, 0, by simp [execAll], rfl, fun _ => le_rfl⟩
  | cons command later ih =>
    obtain ⟨statement, rest, rfl⟩ := List.exists_cons_of_length_eq_add_one same
    rw [execAll, storeAll]
    cases answer : outcomes.headD .ok with
    | ok =>
      obtain ⟨left, count, log, stored, done⟩ := ih rest (Nat.succ.inj same) outcomes.tail
        { cs with log := cs.log ++ [command] } (statement.apply rows).1
      refine ⟨left, count + 1, ?_, stored, fun ok => Nat.succ_le_succ (done ok)⟩
      simpa [Command.verdict] using log
    | refused err | failed err => exact ⟨rfl, 0, by simp [Command.verdict], rfl, fun ok => by cases ok⟩

theorem planned_statements {orders : Orders V} {chosen : List (DirtyEntry V)} {batches : List (Batch V)}
    (planned : Planned orders chosen batches) (batch : Batch V) (member : batch ∈ batches) :
    (batch.statements orders).map Statement.args = batch.commands.map Command.args := by
  obtain ⟨entityType, made, typed⟩ := planned.commands batch member
  rw [made, batch_statements_args, Batch.statements, Batch.entityType]
  cases entries : batch.entries with
  | nil => rfl
  | cons first rest =>
    have own := typed first (by rw [entries]; exact List.mem_cons_self)
    simp [own]

theorem flush_batches_errs (batches : List (Batch V)) (outcomes : List ExecOutcome) (errs : List String) (cs : CacheSync V)
    (clean : (cs.flushBatches batches outcomes errs).1 = []) : errs = [] := by
  induction batches generalizing outcomes errs cs with
  | nil => exact clean
  | cons batch later ih =>
    rw [flushBatches] at clean
    split at clean
    · exact absurd (ih _ _ _ clean) (List.concat_ne_nil _ _)
    · exact ih _ _ _ clean

theorem flush_batches_stored (orders : Orders V) (batches : List (Batch V)) (outcomes : List ExecOutcome) (cs : CacheSync V)
    (rows : Rows V) (lengths : ∀ batch ∈ batches, (batch.statements orders).length = batch.commands.length)
    (clean : (cs.flushBatches batches outcomes []).1 = []) :
    storeBatches orders batches outcomes rows = applyAll (batches.flatMap (Batch.statements orders)) rows ∧
      ∀ key, (cs.flushBatches batches outcomes []).2.dirtyEntries.lookup key =
        if key ∈ (batches.flatMap Batch.entries).map DirtyEntry.key then none else cs.dirtyEntries.lookup key := by
  induction batches generalizing outcomes cs rows with
  | nil => exact ⟨rfl, by simp [flushBatches]⟩
  | cons batch later ih =>
    obtain ⟨left, count, log, stored, done⟩ := exec_all_stored batch.commands (batch.statements orders)
      (lengths batch List.mem_cons_self) outcomes cs rows
    obtain ⟨applied, _, executed, _⟩ := exec_all_log batch.commands outcomes cs
    rcases run : cs.execAll batch.commands outcomes with ⟨result, rest, after⟩
    rw [run] at left done executed
    rw [flushBatches, flushBatch, run] at clean ⊢
    cases result with
    | error err => exact absurd (flush_batches_errs _ _ _ _ clean) (List.concat_ne_nil err [])
    | ok =>
      have whole : (batch.statements orders).take count = batch.statements orders :=
        List.take_of_length_le ((lengths batch List.mem_cons_self).trans_le (done rfl))
      have dirty : after.dirtyEntries = cs.dirtyEntries := by rw [show after = _ from executed]
      obtain ⟨rows_later, dirty_later⟩ := ih rest (after.removeFlushed batch.entries) (applyAll (batch.statements orders) rows)
        (fun other member => lengths other (List.mem_cons_of_mem _ member)) clean
      have ran : storeAll (batch.statements orders) outcomes rows = (rest, applyAll (batch.statements orders) rows) :=
        Prod.ext left (by rw [stored, whole])
      constructor
      · rw [storeBatches, ran]
        dsimp only
        rw [rows_later, List.flatMap_cons, applyAll, applyAll, applyAll, List.foldl_append]
      · intro key
        rw [dirty_later, lookup_removed, dirty, List.flatMap_cons, List.map_append]
        by_cases here : key ∈ batch.entries.map DirtyEntry.key <;>
          by_cases there : key ∈ (later.flatMap Batch.entries).map DirtyEntry.key <;>
          simp only [here, there, List.mem_append, if_true, if_false, or_true, or_false]

theorem flush_clean (env : Env V) (cs : CacheSync V) (rows : Rows V) (ok : (cs.flush env).1 = .ok)
    (some_ : (cs.selectEntries env.orders.dirty).1 ≠ []) :
    ∃ batches, planFlush env.orders cs.config.batchSize (cs.selectEntries env.orders.dirty).1 = some batches ∧
      cs.flushRows env rows = applyAll (batches.flatMap (Batch.statements env.orders)) rows ∧
      ∀ key, (cs.flush env).2.dirtyEntries.lookup key =
        if key ∈ (batches.flatMap Batch.entries).map DirtyEntry.key then none
        else (cs.dirtyEntries.lookup key).map DirtyEntry.select := by
  have filled : (cs.selectEntries env.orders.dirty).1.length ≠ 0 := fun none => some_ (List.length_eq_zero_iff.mp none)
  have config : (cs.selectEntries env.orders.dirty).2.config = cs.config := rfl
  simp only [flush, flushRows, if_neg filled, config] at ok ⊢
  cases plan : planFlush env.orders cs.config.batchSize (cs.selectEntries env.orders.dirty).1 with
  | none =>
    rw [plan] at ok
    cases ok
  | some batches =>
    have lengths (batch : Batch V) (member : batch ∈ batches) :
        (batch.statements env.orders).length = batch.commands.length := by
      have args := congrArg List.length (planned_statements (plan_flush_some env.orders _ _ batches plan) batch member)
      simpa using args
    rw [plan] at ok
    have clean : ((cs.selectEntries env.orders.dirty).2.flushBatches batches env.outcomes []).1 = [] := by
      dsimp only at ok
      split at ok
      · assumption
      · cases ok
    obtain ⟨stored, dirty⟩ := flush_batches_stored env.orders batches env.outcomes _ rows lengths clean
    refine ⟨batches, rfl, stored, fun key => ?_⟩
    dsimp only
    rw [clean]
    exact (dirty key).trans (by rw [lookup_selected])

def StoredOrKept (key : EntityKey) (data : EntityData V) (rows : Rows V) (cs : CacheSync V) : Prop :=
  (∃ row, rows key = some row ∧ HoldsData data row) ∨
    ∃ entry, cs.dirtyEntries.lookup (formatDirtyKey key.entityType key.entityID) = some entry

section Planned

variable {orders : Orders V} {chosen : List (DirtyEntry V)} {batches : List (Batch V)} (planned : Planned orders chosen batches)
  (distinct : (chosen.map DirtyEntry.key).Nodup) (batch : Batch V) (inside : batch ∈ batches)

include planned inside

theorem planned_type (entry : DirtyEntry V) (member : entry ∈ batch.entries) : batch.entityType = entry.entityType := by
  obtain ⟨entityType, _, typed⟩ := planned.commands batch inside
  cases entries : batch.entries with
  | nil =>
    rw [entries] at member
    cases member
  | cons first rest =>
    rw [Batch.entityType, entries, typed entry member]
    exact typed first (by rw [entries]; exact List.mem_cons_self)

include distinct

theorem planned_unique (first second : DirtyEntry V) (one : first ∈ batch.entries) (two : second ∈ chosen)
    (table : batch.entityType = second.entityType) (id : first.entityID = second.entityID) : first = second := by
  refine List.inj_on_of_nodup_map distinct (planned.cover.subset (List.mem_flatMap.mpr ⟨batch, inside, one⟩)) two ?_
  rw [DirtyEntry.key, DirtyEntry.key, ← planned_type planned batch inside first one, table, id]

end Planned

section Entry

variable {orders : Orders V} {chosen : List (DirtyEntry V)} {batches : List (Batch V)} (planned : Planned orders chosen batches)
  (distinct : (chosen.map DirtyEntry.key).Nodup) (entry : DirtyEntry V) (data : EntityData V)
  (updates : entry.data = some data)

include planned distinct updates

theorem planned_only (picked : entry ∈ chosen) (statement : Statement V) (member : statement ∈ batches.flatMap (Batch.statements orders))
    (touches : statement.Touches entry.entity) :
    statement = updateStatement orders entry.entityType entry.entityID data := by
  obtain ⟨batch, inside, made⟩ := List.mem_flatMap.mp member
  rcases mem_batch_statements orders batch.entityType batch.entries statement made with
    ⟨other, also, found, stored, rfl⟩ | ⟨entityIDs, rfl, deleted⟩
  · obtain ⟨table, id⟩ := EntityKey.mk.inj touches
    rw [planned_unique planned distinct batch inside other entry also picked table.symm id.symm, updates, Option.some_inj] at stored
    rw [stored, ← table, ← id]
  · obtain ⟨table, listed⟩ : entry.entityType = batch.entityType ∧ entry.entityID ∈ entityIDs := touches
    obtain ⟨other, also, id, none⟩ := deleted _ listed
    rw [planned_unique planned distinct batch inside other entry also picked table.symm id, updates] at none
    cases none

theorem planned_update (cut : entry ∈ batches.flatMap Batch.entries) :
    updateStatement orders entry.entityType entry.entityID data ∈ batches.flatMap (Batch.statements orders) := by
  obtain ⟨batch, inside, member⟩ := List.mem_flatMap.mp cut
  have table := planned_type planned batch inside entry member
  refine List.mem_flatMap.mpr ⟨batch, inside, ?_⟩
  rw [Batch.statements, ← table]
  refine update_in_batch orders batch.entityType batch.entries entry data member updates ?_
  intro first one second two id
  have second_type := planned_type planned batch inside second two
  exact planned_unique planned distinct batch inside first second one
    (planned.cover.subset (List.mem_flatMap.mpr ⟨batch, inside, two⟩)) second_type id

end Entry

theorem select_data (entry : DirtyEntry V) : entry.select.data = entry.data ∧ entry.select.entity = entry.entity := by
  unfold DirtyEntry.select
  split <;> exact ⟨rfl, rfl⟩

theorem flush_entry_stored_iff (env : Env V) (cs : CacheSync V) (keyed : cs.WellKeyed) (held : cs.dirtyEntries.size < 2 ^ 63)
    (rows : Rows V) (entry : DirtyEntry V) (data : EntityData V) (found : cs.dirtyEntries.lookup entry.key = some entry)
    (fresh : entry.status = .new) (updates : entry.data = some data) (flushed : (cs.flush env).1 = .ok) :
    StoredOrKept entry.entity data (cs.flushRows env rows) (cs.flush env).2 ↔
      (rows entry.entity).isSome = true ∨ ¬ TypeFits cs.config.batchSize cs.eligible entry.entityType := by
  obtain ⟨same_data, same_entity⟩ := select_data entry
  have picked : entry.select ∈ (cs.selectEntries env.orders.dirty).1 :=
    (mem_selected env.orders.dirty cs _).mpr ⟨entry.key, entry, found, fresh, rfl⟩
  have distinct := selected_keys_nodup env.orders.dirty cs keyed
  have few : ∀ entityType, (ofType entityType (cs.selectEntries env.orders.dirty).1).length < 2 ^ 63 := by
    intro entityType
    have selected : (cs.selectEntries env.orders.dirty).1.length ≤ cs.dirtyEntries.size := by
      rw [selectEntries, List.length_map]
      refine (List.length_filter_le _ _).trans_eq ((env.orders.dirty.perm _).length_eq.trans ?_)
      rw [AList.values, List.length_map]
      rfl
    exact (List.length_filter_le _ _).trans_lt (selected.trans_lt held)
  obtain ⟨batches, plan, stored, dirty⟩ := flush_clean env cs rows flushed (List.ne_nil_of_mem picked)
  have key : formatDirtyKey entry.entity.entityType entry.entity.entityID = entry.key := rfl
  rw [StoredOrKept, key, stored, dirty, found, ← type_fits_selected env.orders.dirty]
  by_cases fits : TypeFits cs.config.batchSize (cs.selectEntries env.orders.dirty).1 entry.entityType
  · obtain ⟨_, again, cover⟩ := plan_flush_sized env.orders _ (cs.selectEntries env.orders.dirty).1 fits.1 few
    cases plan.symm.trans again
    have planned := plan_flush_some env.orders _ _ batches plan
    have cut : entry.select ∈ batches.flatMap Batch.entries :=
      cover.mem_iff.mpr (List.mem_filter.mpr ⟨picked, by rw [select_type]; exact decide_eq_true fits⟩)
    have removed : entry.key ∈ (batches.flatMap Batch.entries).map DirtyEntry.key :=
      List.mem_map.mpr ⟨entry.select, cut, select_key entry⟩
    obtain ⟨table, id⟩ := EntityKey.mk.inj same_entity
    have only := planned_only planned distinct entry.select data (same_data.trans updates) picked
    have update := planned_update planned distinct entry.select data (same_data.trans updates) cut
    rw [same_entity, table, id] at only
    rw [table, id] at update
    rw [if_pos removed]
    cases present : rows entry.entity with
    | none => simp [apply_all_absent entry.entity _ rows present, fits]
    | some row =>
      obtain ⟨after, final, holds⟩ :=
        apply_all_updates entry.entity env.orders data _ rows row present only (.inl update)
      exact iff_of_true (.inl ⟨after, final, holds⟩) (.inl rfl)
  · refine iff_of_true (.inr ⟨entry.select, if_neg fun removed => fits ?_⟩) (.inr fits)
    obtain ⟨other, inside, same⟩ := List.mem_map.mp removed
    have own := List.inj_on_of_nodup_map distinct ((plan_flush_some env.orders _ _ batches plan).cover.subset inside) picked
      (same.trans (select_key entry).symm)
    rw [own] at inside
    exact select_type entry ▸ plan_flush_only env.orders _ _ batches plan entry.select (few _) inside

-- Where the row is missing the update changes nothing, and the entry is gone all the same.
theorem set_then_flush_stored_iff (start : CacheSync V) (clean : start.dirtyEntries = ∅) (history : List (Action V))
    (s : Server V) (ran : Runs.run Server.step { sync := start } history = some s) (setEnv flushEnv : Env V) (rows : Rows V)
    (key : EntityKey) (data : EntityData V) (opts : Option WriteOptions) (later : (opts.getD {}).immediate = false)
    (after : CacheSync V) (stored : s.sync.set setEnv key.entityType key.entityID data opts = (.ok (), after))
    (held : after.dirtyEntries.size < 2 ^ 63) (flushed : (after.flush flushEnv).1 = .ok) :
    StoredOrKept key data (after.flushRows flushEnv rows) (after.flush flushEnv).2 ↔
      (rows key).isSome = true ∨ ¬ TypeFits s.sync.config.batchSize after.eligible key.entityType := by
  have keyed : s.sync.WellKeyed := by
    refine Runs.run_invariant Server.step (fun s => s.sync.WellKeyed) { sync := start } s history ?_
      (fun s action after keyed taken => Server.step_keyed s action after keyed taken) ran
    intro key entry found
    rw [clean] at found
    cases found
  let w : Write V := .set key.entityType key.entityID data opts
  rcases Write.run_deferred setEnv w s.sync later with ⟨err, _, failed, _⟩ | ⟨synced, ok, change⟩
  · cases stored.symm.trans failed
  · cases stored.symm.trans ok
    have entry := change.stored (key.entityID, some data) (List.mem_singleton_self _)
    have iff_ := flush_entry_stored_iff flushEnv after (well_keyed_deferred setEnv w s.sync after change keyed) held rows
      (w.entry setEnv (key.entityID, some data)) data entry rfl rfl flushed
    rw [change.config] at iff_
    exact iff_

def noRows : Rows String := fun _ => none

def oneRow : Rows String := fun key => if key = ⟨"player", "p1"⟩ then some (named "b") else none

def dirtyName : CacheSync String := (nameSync.set plainEnv "player" "p1" (named "a") none).2

theorem existing_row_updated :
    (dirtyName.flush plainEnv).1 = .ok ∧
      StoredOrKept ⟨"player", "p1"⟩ (named "a") (dirtyName.flushRows plainEnv oneRow) (dirtyName.flush plainEnv).2 := by
  have flushed : (dirtyName.flush plainEnv).1 = .ok := by decide +kernel
  exact ⟨flushed, (set_then_flush_stored_iff nameSync rfl [] { sync := nameSync } rfl plainEnv plainEnv oneRow ⟨"player", "p1"⟩
    (named "a") none rfl dirtyName rfl (by decide) flushed).mpr (.inl rfl)⟩

theorem new_name_lost :
    (nameSync.set plainEnv "player" "p1" (named "a") none).1 = .ok () ∧ (dirtyName.flush plainEnv).1 = .ok ∧
      (dirtyName.flush plainEnv).2.log.map Command.sql = ["UPDATE player SET name = $1 WHERE id = $2"] ∧
      (dirtyName.flush plainEnv).2.dirtyEntries.lookup "player:p1" = none ∧
      dirtyName.flushRows plainEnv noRows ⟨"player", "p1"⟩ = none ∧
      ¬ StoredOrKept ⟨"player", "p1"⟩ (named "a") (dirtyName.flushRows plainEnv noRows) (dirtyName.flush plainEnv).2 := by
  have dropped : (dirtyName.flush plainEnv).2.dirtyEntries.lookup "player:p1" = none := by decide +kernel
  have missing : dirtyName.flushRows plainEnv noRows ⟨"player", "p1"⟩ = none := by decide +kernel
  refine ⟨rfl, by decide +kernel, by decide +kernel, dropped, missing, ?_⟩
  rintro (⟨row, present, _⟩ | ⟨entry, kept⟩)
  · cases missing.symm.trans present
  · cases dropped.symm.trans kept

end MmoServer.Db
