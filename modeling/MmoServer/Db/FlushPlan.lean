import MmoServer.Db.WriteEffects

set_option autoImplicit false

namespace MmoServer.Db

variable {V : Type}

variable (entries : List (DirtyEntry V)) (entry : DirtyEntry V) (orders : Orders V) (size : Int) (chosen : List (DirtyEntry V))
  (batches : List (Batch V)) (order : Shuffle (DirtyEntry V)) (cs : CacheSync V) (key : String)

@[simp] theorem select_key : entry.select.key = entry.key := by
  unfold DirtyEntry.select
  split <;> rfl

@[simp] theorem select_write : entry.select.write = entry.write := by
  unfold DirtyEntry.select
  split <;> rfl

theorem select_of_selected (selected : entry.status ≠ .new) : entry.select = entry := if_neg selected

theorem select_status : entry.select.status ≠ .new := by
  unfold DirtyEntry.select
  split
  · simp
  · assumption

def CacheSync.WellKeyed (cs : CacheSync V) : Prop :=
  ∀ key entry, cs.dirtyEntries.lookup key = some entry → entry.key = key

theorem lookup_selected : (cs.selectEntries order).2.dirtyEntries.lookup key = (cs.dirtyEntries.lookup key).map DirtyEntry.select :=
  AList.lookup_map_values _ _ _

theorem selected_origin (entry : DirtyEntry V) (found : (cs.selectEntries order).2.dirtyEntries.lookup key = some entry) :
    ∃ old, cs.dirtyEntries.lookup key = some old ∧ old.select = entry := by
  rwa [lookup_selected, Option.map_eq_some_iff] at found

theorem lookup_removed :
    (cs.removeFlushed entries).dirtyEntries.lookup key =
      if key ∈ entries.map DirtyEntry.key then none else cs.dirtyEntries.lookup key :=
  AList.lookup_erase_all _ _ _

theorem removed_origin (entry : DirtyEntry V) (found : (cs.removeFlushed entries).dirtyEntries.lookup key = some entry) :
    cs.dirtyEntries.lookup key = some entry ∧ key ∉ entries.map DirtyEntry.key := by
  rw [lookup_removed] at found
  split at found
  · cases found
  · exact ⟨found, ‹_›⟩

theorem well_keyed_deferred (env : Env V) (w : Write V) (cs after : CacheSync V) (change : w.Deferred env cs after)
    (keyed : cs.WellKeyed) : after.WellKeyed := by
  intro key entry found
  rcases change.origin key entry found with ⟨item, _, _, same⟩ | ⟨old, _⟩
  · exact same
  · exact keyed key entry old

theorem well_keyed_select (keyed : cs.WellKeyed) : (cs.selectEntries order).2.WellKeyed := by
  intro key entry found
  obtain ⟨old, present, rfl⟩ := selected_origin order cs key entry found
  rw [select_key]
  exact keyed key old present

theorem well_keyed_remove (keyed : cs.WellKeyed) : (cs.removeFlushed entries).WellKeyed :=
  fun key entry found => keyed key entry (removed_origin entries cs key entry found).1

theorem mem_selected (entry : DirtyEntry V) :
    entry ∈ (cs.selectEntries order).1 ↔
      ∃ key old, cs.dirtyEntries.lookup key = some old ∧ old.status = .new ∧ entry = old.select := by
  simp only [CacheSync.selectEntries, List.mem_map, List.mem_filter, Shuffle.mem_apply, AList.mem_values, decide_eq_true_eq]
  constructor
  · rintro ⟨old, ⟨⟨key, found⟩, fresh⟩, rfl⟩
    exact ⟨key, old, found, fresh, rfl⟩
  · rintro ⟨key, old, found, fresh, rfl⟩
    exact ⟨old, ⟨⟨key, found⟩, fresh⟩, rfl⟩

theorem selected_keys_nodup (keyed : cs.WellKeyed) : ((cs.selectEntries order).1.map DirtyEntry.key).Nodup := by
  have keys : (cs.dirtyEntries.values.map DirtyEntry.key).Nodup :=
    AList.map_values_key DirtyEntry.key cs.dirtyEntries keyed ▸ cs.dirtyEntries.keys_nodup
  have shuffled := ((order.perm cs.dirtyEntries.values).map DirtyEntry.key).nodup_iff.mpr keys
  have same : (cs.selectEntries order).1.map DirtyEntry.key =
      ((order.apply cs.dirtyEntries.values).filter fun entry => entry.status = .new).map DirtyEntry.key := by
    rw [CacheSync.selectEntries, List.map_map]
    exact List.map_congr_left fun entry _ => select_key entry
  rw [same]
  exact shuffled.sublist (List.filter_sublist.map DirtyEntry.key)

structure Planned (orders : Orders V) (chosen : List (DirtyEntry V)) (batches : List (Batch V)) : Prop where
  cover : (batches.flatMap Batch.entries).Subperm chosen
  commands : ∀ batch ∈ batches, ∃ entityType, batch.commands = batchCommands orders entityType batch.entries ∧
    ∀ entry ∈ batch.entries, entry.entityType = entityType

def ofType (entityType : String) (entries : List (DirtyEntry V)) : List (DirtyEntry V) :=
  entries.filter fun entry => entry.entityType = entityType

-- The batches of a type hold its entries: the number of batches is computed
-- with a positive size and without an overflow.
def TypeFits (size : Int) (entries : List (DirtyEntry V)) (entityType : String) : Prop :=
  1 ≤ size ∧ ((ofType entityType entries).length : Int) + size - 1 < 2 ^ 63

instance (size : Int) (entries : List (DirtyEntry V)) (entityType : String) : Decidable (TypeFits size entries entityType) :=
  inferInstanceAs (Decidable (_ ∧ _))

theorem group_eq (pair : String × List (DirtyEntry V)) (member : pair ∈ orders.types.apply (entriesByType chosen).pairs) :
    pair.2 = ofType pair.1 chosen := by
  have found := (AList.mem_pairs _ pair.1 pair.2).mp ((Shuffle.mem_apply _ _ _).mp member)
  rw [AList.lookup_group_into _ _ _ _ _ found]
  rfl

theorem groups_perm : ((orders.types.apply (entriesByType chosen).pairs).flatMap Prod.snd).Perm chosen :=
  ((orders.types.perm _).flatMap_right _).trans (AList.group_into_perm DirtyEntry.entityType chosen ∅)

theorem type_batches_some (entityType : String) (entries : List (DirtyEntry V)) (batches : List (Batch V))
    (made : typeBatches orders size entityType entries = some batches) :
    ∃ slices, Chunks.chunks entries size = some slices ∧ batches.flatMap Batch.entries = slices.flatten ∧
      ∀ batch ∈ batches, batch.commands = batchCommands orders entityType batch.entries := by
  obtain ⟨slices, cut, same⟩ := Option.bind_eq_some_iff.mp made
  cases same
  refine ⟨slices, cut, by rw [List.flatMap_map, List.flatMap_id'], ?_⟩
  intro batch member
  obtain ⟨slice, _, rfl⟩ := List.mem_map.mp member
  rfl

theorem plan_flush_some (plan : planFlush orders size chosen = some batches) : Planned orders chosen batches := by
  obtain ⟨groups, planned, same⟩ := Option.bind_eq_some_iff.mp plan
  cases same
  obtain ⟨made, rfl⟩ := Chunks.map_m_lists _ _ groups planned
  have within : ∀ pair ∈ orders.types.apply (entriesByType chosen).pairs,
      (((typeBatches orders size pair.1 pair.2).getD []).flatMap Batch.entries).Sublist pair.2 := by
    intro pair member
    obtain ⟨slices, cut, rejoined, _⟩ := type_batches_some _ _ _ _ _ (made pair member)
    rw [rejoined]
    exact (Chunks.chunks_within _ _ slices cut).sublist
  constructor
  · rw [List.flatten_eq_flatMap, List.flatMap_assoc, List.flatMap_map]
    exact (List.Sublist.flatMap_right _ within).subperm.trans (groups_perm orders chosen).subperm
  · intro batch member
    obtain ⟨_, inGroups, inGroup⟩ := List.mem_flatten.mp member
    obtain ⟨pair, listed, rfl⟩ := List.mem_map.mp inGroups
    obtain ⟨_, _, _, commands⟩ := type_batches_some _ _ _ _ _ (made pair listed)
    refine ⟨pair.1, commands batch inGroup, ?_⟩
    intro entry inside
    have grouped := (within pair listed).subset (List.mem_flatMap.mpr ⟨batch, inGroup, inside⟩)
    rw [group_eq orders chosen pair listed, ofType, List.mem_filter] at grouped
    exact of_decide_eq_true grouped.2

theorem plan_flush_sized (sized : 1 ≤ size) (held : ∀ entityType, (ofType entityType chosen).length < 2 ^ 63) :
    ∃ batches, planFlush orders size chosen = some batches ∧
      (batches.flatMap Batch.entries).Perm (chosen.filter fun entry => TypeFits size chosen entry.entityType) := by
  choose slices cut rejoined using fun entityType => Chunks.chunks_sized (ofType entityType chosen) size sized (held entityType)
  have made : ∀ pair ∈ orders.types.apply (entriesByType chosen).pairs, typeBatches orders size pair.1 pair.2 =
      some ((slices pair.1).map fun slice => Batch.mk slice (batchCommands orders pair.1 slice)) := by
    intro pair member
    rw [typeBatches, group_eq orders chosen pair member, cut]
    rfl
  refine ⟨_, by rw [planFlush, Chunks.map_m_some _ _ _ made]; rfl, ?_⟩
  refine List.Perm.trans (List.Perm.of_eq ?_) ((groups_perm orders chosen).filter _)
  rw [List.flatten_eq_flatMap, List.flatMap_assoc, List.flatMap_map, List.filter_flatMap]
  apply List.flatMap_congr
  intro pair member
  rw [id_eq, List.flatMap_map, List.flatMap_id', rejoined, group_eq orders chosen pair member]
  have typed : ∀ entry ∈ ofType pair.1 chosen, TypeFits size chosen entry.entityType = TypeFits size chosen pair.1 :=
    fun entry inside => by rw [of_decide_eq_true (List.mem_filter.mp inside).2]
  by_cases fits : TypeFits size chosen pair.1
  · rw [if_pos fits.2]
    exact (List.filter_eq_self.mpr fun entry inside => decide_eq_true (typed entry inside ▸ fits)).symm
  · rw [if_neg fun below => fits ⟨sized, below⟩]
    exact (List.filter_eq_nil_iff.mpr fun entry inside fit => fits (typed entry inside ▸ of_decide_eq_true fit)).symm

theorem plan_flush_only (plan : planFlush orders size chosen = some batches) (entry : DirtyEntry V)
    (held : (ofType entry.entityType chosen).length < 2 ^ 63) (inside : entry ∈ batches.flatMap Batch.entries) :
    TypeFits size chosen entry.entityType := by
  obtain ⟨groups, planned, same⟩ := Option.bind_eq_some_iff.mp plan
  cases same
  obtain ⟨made, rfl⟩ := Chunks.map_m_lists _ _ groups planned
  rw [List.flatten_eq_flatMap, List.flatMap_assoc, List.flatMap_map, List.mem_flatMap] at inside
  obtain ⟨pair, listed, member⟩ := inside
  obtain ⟨slices, cut, rejoined, _⟩ := type_batches_some _ _ _ _ _ (made pair listed)
  rw [id_eq, rejoined] at member
  have grouped := (Chunks.chunks_within _ _ slices cut).subset member
  rw [group_eq orders chosen pair listed] at cut grouped
  have typed := of_decide_eq_true (List.mem_filter.mp grouped).2
  rw [← typed] at cut
  exact (Chunks.chunks_some _ size held slices cut).resolve_left fun none => by simp [none] at member

theorem plan_flush_fits (filled : chosen ≠ []) (fits : ∀ entry ∈ chosen, TypeFits size chosen entry.entityType) :
    ∃ batches, planFlush orders size chosen = some batches ∧ (batches.flatMap Batch.entries).Perm chosen := by
  obtain ⟨first, picked⟩ := List.exists_mem_of_ne_nil chosen filled
  obtain ⟨batches, plan, cover⟩ := plan_flush_sized orders size chosen (fits first picked).1 fun entityType => by
    cases group : ofType entityType chosen with
    | nil => exact Nat.two_pow_pos 63
    | cons entry others =>
      obtain ⟨member, typed⟩ := List.mem_filter.mp (show entry ∈ ofType entityType chosen by rw [group]; exact List.mem_cons_self)
      have below := fits entry member
      rw [of_decide_eq_true typed, TypeFits, group] at below
      omega
  rw [List.filter_eq_self.mpr fun entry member => decide_eq_true (fits entry member)] at cover
  exact ⟨batches, plan, cover⟩

namespace CacheSync

def eligible (cs : CacheSync V) : List (DirtyEntry V) := cs.dirtyEntries.values.filter fun entry => entry.status = .new

-- The batches of a Flush that begins now hold every entry it selects.
def BatchesFit (cs : CacheSync V) : Prop :=
  ∀ entry ∈ cs.eligible, TypeFits cs.config.batchSize cs.eligible entry.entityType

instance (cs : CacheSync V) : Decidable cs.BatchesFit := inferInstanceAs (Decidable (∀ entry ∈ cs.eligible, _))

theorem select_type (entry : DirtyEntry V) : entry.select.entityType = entry.entityType := by
  unfold DirtyEntry.select
  split <;> rfl

theorem type_fits_selected (order : Shuffle (DirtyEntry V)) (cs : CacheSync V) (size : Int) (entityType : String) :
    TypeFits size (cs.selectEntries order).1 entityType ↔ TypeFits size cs.eligible entityType := by
  have same : (ofType entityType (cs.selectEntries order).1).length = (ofType entityType cs.eligible).length := by
    have typed : (fun entry : DirtyEntry V => decide (entry.entityType = entityType)) ∘ DirtyEntry.select =
        fun entry => decide (entry.entityType = entityType) := funext fun entry => by rw [Function.comp_apply, select_type]
    rw [ofType, selectEntries, List.filter_map, List.length_map, typed]
    exact (((order.perm cs.dirtyEntries.values).filter _).filter _).length_eq
  rw [TypeFits, TypeFits, same]

theorem BatchesFit.selected {cs : CacheSync V} (fits : cs.BatchesFit) (order : Shuffle (DirtyEntry V)) :
    ∀ entry ∈ (cs.selectEntries order).1, TypeFits cs.config.batchSize (cs.selectEntries order).1 entry.entityType := by
  intro entry chosen
  obtain ⟨key, old, found, fresh, rfl⟩ := (mem_selected order cs entry).mp chosen
  rw [type_fits_selected, select_type]
  exact fits old (List.mem_filter.mpr ⟨(AList.mem_values _ old).mpr ⟨key, found⟩, decide_eq_true fresh⟩)

end CacheSync

theorem lookup_updates (entries : List (DirtyEntry V))
    (distinct : ∀ first ∈ entries, ∀ second ∈ entries, first.entityID = second.entityID → first = second)
    (entityID : String) (entity : Stamped V) :
    ((∅ : GoMap String (Stamped V)).insertPairs (entries.filterMap fun entry =>
      entry.data.map fun data => (entry.entityID, Stamped.mk data entry.ticket))).lookup entityID = some entity ↔
      ∃ entry ∈ entries, ∃ data, entry.data = some data ∧ entityID = entry.entityID ∧ entity = ⟨data, entry.ticket⟩ := by
  constructor
  · intro found
    rcases AList.insert_pairs_origin _ _ _ _ found with paired | absent
    · simpa [eq_comm] using paired
    · simp at absent
  · rintro ⟨entry, member, data, updated, rfl, rfl⟩
    refine AList.lookup_insert_pairs_mem _ _ (entry.entityID, Stamped.mk data entry.ticket)
      (List.mem_filterMap.mpr ⟨entry, member, by simp [updated]⟩) ?_
    intro other paired same
    obtain ⟨second, also, pair⟩ := List.mem_filterMap.mp paired
    obtain ⟨stored, present, rfl⟩ := Option.map_eq_some_iff.mp pair
    have equal : second = entry := distinct second also entry member same
    subst equal
    rw [updated, Option.some_inj] at present
    rw [present]

theorem mem_guarded {α β : Type} (guards : List α) (commands : List β) (writes : β → List WriteID) (x : WriteID)
    (idle : guards = [] → x ∉ commands.flatMap writes) :
    x ∈ (if guards.length > 0 then commands else []).flatMap writes ↔ x ∈ commands.flatMap writes := by
  by_cases some_ : guards.length > 0
  · rw [if_pos some_]
  · rw [if_neg some_]
    have none : guards = [] := List.length_eq_zero_iff.mp (by omega)
    simpa using idle none

theorem mem_batch_commands (orders : Orders V) (entityType : String) (entries : List (DirtyEntry V))
    (typed : ∀ entry ∈ entries, entry.entityType = entityType)
    (distinct : ∀ first ∈ entries, ∀ second ∈ entries, first.entityID = second.entityID → first = second) (x : WriteID) :
    x ∈ (batchCommands orders entityType entries).flatMap Command.writes ↔ ∃ entry ∈ entries, x = entry.write := by
  have own : ∀ entry ∈ entries, entry.write = ⟨⟨entityType, entry.entityID⟩, entry.ticket⟩ := by
    intro entry member
    rw [DirtyEntry.write, DirtyEntry.entity, typed entry member]
  rw [batchCommands, List.flatMap_append, List.mem_append, mem_guarded, mem_guarded, mem_flush_entities,
    mem_execute_delete_multi]
  · simp only [lookup_updates entries distinct, List.mem_map, List.mem_filter, Option.isNone_iff_eq_none]
    constructor
    · rintro (⟨_, _, ⟨entry, member, data, _, rfl, rfl⟩, rfl⟩ | ⟨_, ⟨entry, ⟨member, _⟩, rfl⟩, rfl⟩)
      · exact ⟨entry, member, (own entry member).symm⟩
      · exact ⟨entry, member, (own entry member).symm⟩
    · rintro ⟨entry, member, rfl⟩
      rw [own entry member]
      cases kind : entry.data with
      | none => exact .inr ⟨_, ⟨entry, ⟨member, kind⟩, rfl⟩, rfl⟩
      | some data => exact .inl ⟨_, _, ⟨entry, member, data, kind, rfl, rfl⟩, rfl⟩
  · intro none
    rw [none, mem_execute_delete_multi]
    simp
  · intro none
    rw [none, mem_flush_entities]
    simp [AList.insertPairs]

namespace Planned

variable {orders : Orders V} {chosen : List (DirtyEntry V)} {batches : List (Batch V)}

section

variable (planned : Planned orders chosen batches) (distinct : (chosen.map DirtyEntry.key).Nodup)

include planned distinct

theorem keys_nodup : ((batches.flatMap Batch.entries).map DirtyEntry.key).Nodup :=
  let ⟨_, same, within⟩ := planned.cover
  (same.map DirtyEntry.key).nodup_iff.mp (distinct.sublist (within.map DirtyEntry.key))

theorem mem_pending (batch : Batch V) (member : batch ∈ batches) (x : WriteID) :
    x ∈ batch.pending ↔ ∃ entry ∈ batch.entries, x = entry.write := by
  obtain ⟨entityType, made, typed⟩ := planned.commands batch member
  rw [Batch.pending, made]
  refine mem_batch_commands orders entityType batch.entries typed ?_ x
  intro first one second two same
  refine List.inj_on_of_nodup_map (planned.keys_nodup distinct) (List.mem_flatMap.mpr ⟨batch, member, one⟩)
    (List.mem_flatMap.mpr ⟨batch, member, two⟩) ?_
  rw [DirtyEntry.key, DirtyEntry.key, typed first one, typed second two, same]

theorem mem_writes (x : WriteID) :
    x ∈ (batches.flatMap Batch.commands).flatMap Command.writes ↔ ∃ entry ∈ batches.flatMap Batch.entries, x = entry.write := by
  rw [List.flatMap_assoc, List.mem_flatMap]
  constructor
  · rintro ⟨batch, member, pending⟩
    obtain ⟨entry, inBatch, rfl⟩ := (planned.mem_pending distinct batch member x).mp pending
    exact ⟨entry, List.mem_flatMap.mpr ⟨batch, member, inBatch⟩, rfl⟩
  · rintro ⟨entry, picked, rfl⟩
    obtain ⟨batch, member, inBatch⟩ := List.mem_flatMap.mp picked
    exact ⟨batch, member, (planned.mem_pending distinct batch member _).mpr ⟨entry, inBatch, rfl⟩⟩

end

end Planned

end MmoServer.Db
