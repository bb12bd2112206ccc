import MmoServer.Db.FlushSteps

set_option autoImplicit false

namespace MmoServer.Db

variable {V : Type}

structure FlushCall (V : Type) where
  selected : List (DirtyEntry V)
  batches : List (List (DirtyEntry V))

namespace FlushCall

def fitting (size : Int) (call : FlushCall V) : List (DirtyEntry V) :=
  call.selected.filter fun entry => TypeFits size call.selected entry.entityType

def batchesWith (call : FlushCall V) (entry : DirtyEntry V) : Nat :=
  (call.batches.map (·.map DirtyEntry.write)).countP fun batch => entry.write ∈ batch

end FlushCall

namespace Server

def flushCall (s after : Server V) : Action V → List (FlushCall V)
  | .beginFlush number orders =>
    [⟨(s.sync.selectEntries orders.dirty).1, ((after.tasks.lookup number).elim [] FlushTask.batches).map Batch.entries⟩]
  | _ => []

def flushCalls : Server V → List (Action V) → List (FlushCall V)
  | _, [] => []
  | s, action :: rest =>
    match s.step action with
    | none => []
    | some after => s.flushCall after action ++ after.flushCalls rest

def selectedWrites (calls : List (FlushCall V)) : List WriteID := calls.flatMap fun call => call.selected.map DirtyEntry.write

structure Unclaimed (past : List WriteID) (s : Server V) : Prop where
  keyed : s.sync.WellKeyed
  made : ∀ key entry, s.sync.dirtyEntries.lookup key = some entry → entry.ticket < s.next
  free : ∀ key entry, s.sync.dirtyEntries.lookup key = some entry → entry.status = .new → entry.write ∉ past
  old : ∀ write ∈ past, write.ticket < s.next

section Step

variable (past : List WriteID) (s after : Server V)

theorem unclaimed_write (unclaimed : s.Unclaimed past) (w : Write V) (env : Env V) : (s.write w env).Unclaimed past := by
  have taken : s.step (.write w env) = some (s.write w env) := rfl
  have next : (s.write w env).next = s.next + 1 := rfl
  refine ⟨step_keyed s _ _ unclaimed.keyed taken, ?_, ?_, ?_⟩
  · intro key entry found
    rw [next]
    cases step_origin s _ _ taken key entry found with
    | kept present => exact Nat.lt_succ_of_lt (unclaimed.made key entry present)
    | written status own => exact own ▸ Nat.lt_succ_self _
    | selected number orders old began => cases began
  · intro key entry found status
    cases step_origin s _ _ taken key entry found with
    | kept present => exact unclaimed.free key entry present status
    | written _ own =>
      intro claimed
      have earlier := unclaimed.old _ claimed
      exact Nat.ne_of_lt earlier own
    | selected number orders old began => cases began
  · intro write claimed
    exact Nat.lt_succ_of_lt (unclaimed.old write claimed)

theorem selected_unclaimed (unclaimed : s.Unclaimed past) (order : Shuffle (DirtyEntry V)) (write : WriteID)
    (chosen : write ∈ (s.sync.selectEntries order).1.map DirtyEntry.write) : write ∉ past ∧ write.ticket < s.next := by
  obtain ⟨entry, picked, rfl⟩ := List.mem_map.mp chosen
  obtain ⟨key, old, found, fresh, rfl⟩ := (mem_selected order s.sync entry).mp picked
  rw [select_write]
  exact ⟨unclaimed.free key old found fresh, unclaimed.made key old found⟩

theorem unclaimed_begin (unclaimed : s.Unclaimed past) (number : Nat) (orders : Orders V)
    (taken : s.step (.beginFlush number orders) = some (s.beginFlush number orders)) :
    (s.beginFlush number orders).Unclaimed (past ++ (s.sync.selectEntries orders.dirty).1.map DirtyEntry.write) := by
  have next : (s.beginFlush number orders).next = s.next := by
    rcases begin_flush_cases number orders s with ⟨idle, _⟩ | ⟨_, _, begun⟩
    · rw [idle]
    · rw [begun]
  refine ⟨step_keyed s _ _ unclaimed.keyed taken, ?_, ?_, ?_⟩
  · intro key entry found
    rw [begin_flush_sync] at found
    obtain ⟨old, present, rfl⟩ := selected_origin orders.dirty s.sync key entry found
    have same : old.select.ticket = old.ticket := congrArg WriteID.ticket (select_write old)
    rw [next, same]
    exact unclaimed.made key old present
  · intro key entry found status
    rw [begin_flush_sync] at found
    obtain ⟨old, _, rfl⟩ := selected_origin orders.dirty s.sync key entry found
    exact absurd status (select_status old)
  · intro write claimed
    rw [next]
    rcases List.mem_append.mp claimed with earlier | now
    · exact unclaimed.old write earlier
    · exact (selected_unclaimed past s unclaimed orders.dirty write now).2

theorem unclaimed_step (unclaimed : s.Unclaimed past) (action : Action V) (taken : s.step action = some after) :
    after.Unclaimed (past ++ selectedWrites (s.flushCall after action)) := by
  have keyed := step_keyed s action after unclaimed.keyed taken
  have same : past ++ selectedWrites ([] : List (FlushCall V)) = past := List.append_nil past
  cases step_effect s action after taken with
  | write w env => exact same.symm ▸ unclaimed_write past s unclaimed w env
  | beginFlush number orders fresh =>
    simp only [flushCall, selectedWrites, List.flatMap_cons, List.flatMap_nil, List.append_nil]
    exact unclaimed_begin past s unclaimed number orders taken
  | removed number entries =>
    refine same.symm ▸ ⟨keyed, fun key entry found => ?_, fun key entry found => ?_, unclaimed.old⟩
    · exact unclaimed.made key entry (removed_origin entries s.sync key entry found).1
    · exact unclaimed.free key entry (removed_origin entries s.sync key entry found).1
  | executed | failed | finished => exact same.symm ▸ ⟨keyed, unclaimed.made, unclaimed.free, unclaimed.old⟩

theorem selected_writes_nodup (order : Shuffle (DirtyEntry V)) (cs : CacheSync V) (keyed : cs.WellKeyed) :
    ((cs.selectEntries order).1.map DirtyEntry.write).Nodup := by
  have keys := selected_keys_nodup order cs keyed
  have through : (cs.selectEntries order).1.map DirtyEntry.key =
      ((cs.selectEntries order).1.map DirtyEntry.write).map fun write =>
        formatDirtyKey write.entity.entityType write.entity.entityID := by
    rw [List.map_map]
    rfl
  exact List.Nodup.of_map _ (through ▸ keys)

end Step

theorem begin_flush_batches (s : Server V) (number : Nat) (orders : Orders V) (fresh : s.tasks.lookup number = none)
    (sized : 1 ≤ s.sync.config.batchSize) (held : (s.sync.selectEntries orders.dirty).1.length < 2 ^ 63) :
    ((((s.beginFlush number orders).tasks.lookup number).elim [] FlushTask.batches).map Batch.entries).flatten.Perm
      ((s.sync.selectEntries orders.dirty).1.filter fun entry =>
        TypeFits s.sync.config.batchSize (s.sync.selectEntries orders.dirty).1 entry.entityType) := by
  obtain ⟨batches, plan, cover⟩ := plan_flush_sized orders s.sync.config.batchSize (s.sync.selectEntries orders.dirty).1 sized
    fun _ => (List.length_filter_le _ _).trans_lt held
  rcases begin_flush_cases number orders s with ⟨idle, empty | panics⟩ | ⟨_, plan', begun⟩
  · rw [idle, empty]
    simp [fresh]
  · rw [plan] at panics
    cases panics
  · rw [plan, Option.some_inj] at plan'
    subst plan'
    rw [begun]
    simpa [List.flatMap] using cover

theorem flush_call_once (past : List WriteID) (s after : Server V) (unclaimed : s.Unclaimed past) (action : Action V)
    (taken : s.step action = some after) (distinct : past.Nodup) (sized : 1 ≤ s.sync.config.batchSize) :
    (past ++ selectedWrites (s.flushCall after action)).Nodup ∧ ∀ call ∈ s.flushCall after action,
      call.selected.length < 2 ^ 63 → call.batches.flatten.Perm (call.fitting s.sync.config.batchSize) := by
  have same : past ++ selectedWrites ([] : List (FlushCall V)) = past := List.append_nil past
  cases step_effect s action after taken with
  | beginFlush number orders fresh =>
    simp only [flushCall, selectedWrites, List.flatMap_cons, List.flatMap_nil, List.append_nil, List.forall_mem_singleton]
    refine ⟨?_, begin_flush_batches s number orders fresh sized⟩
    rw [List.nodup_append]
    refine ⟨distinct, selected_writes_nodup orders.dirty s.sync unclaimed.keyed, ?_⟩
    rintro write earlier _ now rfl
    exact (selected_unclaimed past s unclaimed orders.dirty write now).1 earlier
  | write | executed | failed | removed | finished => exact ⟨same.symm ▸ distinct, fun _ none => absurd none List.not_mem_nil⟩

theorem flush_calls_once (actions : List (Action V)) (past : List WriteID) (s : Server V) (unclaimed : s.Unclaimed past)
    (distinct : past.Nodup) (sized : 1 ≤ s.sync.config.batchSize) :
    (past ++ selectedWrites (s.flushCalls actions)).Nodup ∧ ∀ call ∈ s.flushCalls actions,
      call.selected.length < 2 ^ 63 → call.batches.flatten.Perm (call.fitting s.sync.config.batchSize) := by
  induction actions generalizing past s with
  | nil => exact ⟨by simpa [flushCalls, selectedWrites] using distinct, by simp [flushCalls]⟩
  | cons action rest ih =>
    cases taken : s.step action with
    | none => exact ⟨by simpa [flushCalls, selectedWrites, taken] using distinct, by simp [flushCalls, taken]⟩
    | some after =>
      have config := step_config s action after taken
      obtain ⟨new, cut⟩ := flush_call_once past s after unclaimed action taken distinct sized
      obtain ⟨once, covered⟩ := ih _ after (unclaimed_step past s after unclaimed action taken) new (config ▸ sized)
      rw [flushCalls, taken]
      refine ⟨?_, fun call member => ?_⟩
      · simpa [selectedWrites, List.append_assoc] using once
      · exact (List.mem_append.mp member).elim (cut call) (config ▸ covered call)

theorem start_unclaimed (config : CacheSyncConfig) (cache : Redis.RedisCache (EntityData V)) :
    Unclaimed [] ({ sync := { config := config, cache := cache } } : Server V) := by
  constructor <;> simp [CacheSync.WellKeyed]

-- Flush calls overlap in any way with one another and with the writes; a dirty
-- entry falls to one of them at most, and there to one batch where its type fits.
theorem entry_flushed_once_iff (config : CacheSyncConfig) (cache : Redis.RedisCache (EntityData V)) (sized : 1 ≤ config.batchSize)
    (actions : List (Action V)) :
    (selectedWrites (flushCalls { sync := { config := config, cache := cache } } actions)).Nodup ∧
      ∀ call ∈ flushCalls { sync := { config := config, cache := cache } } actions, call.selected.length < 2 ^ 63 →
        ∀ entry ∈ call.selected, call.batchesWith entry = 1 ↔ TypeFits config.batchSize call.selected entry.entityType := by
  obtain ⟨once, covered⟩ := flush_calls_once actions [] _ (start_unclaimed config cache) List.nodup_nil sized
  refine ⟨once, fun call member held entry chosen => ?_⟩
  have writes : (call.batches.map (·.map DirtyEntry.write)).flatten.Perm ((call.fitting config.batchSize).map DirtyEntry.write) := by
    rw [← List.map_flatten]
    exact (covered call member held).map DirtyEntry.write
  have distinct : (call.selected.map DirtyEntry.write).Nodup := (List.nodup_flatMap.mp once).1 call member
  have fitting : ((call.fitting config.batchSize).map DirtyEntry.write).Nodup :=
    distinct.sublist (List.filter_sublist.map DirtyEntry.write)
  constructor
  · intro one
    obtain ⟨batch, inBatches, inBatch⟩ := List.countP_pos_iff.mp (one ▸ Nat.one_pos : 0 < call.batchesWith entry)
    have listed := writes.mem_iff.mp (List.mem_flatten.mpr ⟨batch, inBatches, of_decide_eq_true inBatch⟩)
    obtain ⟨other, picked, same⟩ := List.mem_map.mp listed
    obtain ⟨selected, fits⟩ := List.mem_filter.mp picked
    rw [List.inj_on_of_nodup_map distinct selected chosen same] at fits
    exact of_decide_eq_true fits
  · intro fits
    refine Chunks.count_parts_eq_one _ (writes.nodup_iff.mpr fitting) _ (writes.mem_iff.mpr (List.mem_map_of_mem ?_))
    exact List.mem_filter.mpr ⟨chosen, decide_eq_true fits⟩

def overlappingActions : List (Action String) :=
  [.write (.set "player" "p" (named "a") none) plainEnv, .beginFlush 0 (.listed String),
    .write (.set "player" "p" (named "b") none) plainEnv, .write (.set "player" "q" (named "c") none) plainEnv,
    .beginFlush 1 (.listed String), .exec 0 .ok, .exec 1 .ok, .remove 1, .remove 0]

def overlappingFlushes : List (FlushCall String) :=
  flushCalls { sync := { config := { defaultCacheSyncConfig with batchSize := 1 }, cache := nameCache } } overlappingActions

theorem overlapping_flushes_apart :
    overlappingFlushes.map (fun call => call.batches.map (·.map DirtyEntry.write)) =
        [[[⟨⟨"player", "p"⟩, 0⟩]], [[⟨⟨"player", "q"⟩, 2⟩], [⟨⟨"player", "p"⟩, 1⟩]]] ∧
      (selectedWrites overlappingFlushes).Nodup ∧
      ∀ call ∈ overlappingFlushes, ∀ entry ∈ call.selected, call.batchesWith entry = 1 := by
  have once := entry_flushed_once_iff { defaultCacheSyncConfig with batchSize := 1 } nameCache (by decide) overlappingActions
  have fits : ∀ call ∈ overlappingFlushes, call.selected.length < 2 ^ 63 ∧
      ∀ entry ∈ call.selected, TypeFits 1 call.selected entry.entityType := by
    decide +kernel
  exact ⟨by decide +kernel, once.1, fun call member entry chosen =>
    (once.2 call member (fits call member).1 entry chosen).mpr ((fits call member).2 entry chosen)⟩

def largestSizeFlushes : List (FlushCall String) :=
  flushCalls { sync := { config := { defaultCacheSyncConfig with batchSize := 2 ^ 63 - 1 }, cache := nameCache } }
    [.write (.set "player" "p" (named "a") none) plainEnv, .write (.set "player" "q" (named "b") none) plainEnv,
      .beginFlush 0 (.listed String)]

theorem largest_size_cuts_no_batch :
    largestSizeFlushes.map (fun call => (call.selected.map DirtyEntry.write, call.batches.length)) =
        [([⟨⟨"player", "q"⟩, 1⟩, ⟨⟨"player", "p"⟩, 0⟩], 0)] ∧
      ∀ call ∈ largestSizeFlushes, ∀ entry ∈ call.selected, call.batchesWith entry = 0 := by
  decide +kernel

end Server

end MmoServer.Db
