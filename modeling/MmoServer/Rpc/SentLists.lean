import MmoServer.Lib.Runs
import MmoServer.Rpc.Registry

set_option autoImplicit false

namespace MmoServer.Rpc

open Slices

namespace InMemoryRegistry

section Notifying

structure SameLists (r after : InMemoryRegistry) : Prop where
  heap : after.heap = r.heap
  arrays : after.arrays = r.arrays
  services : after.services = r.services

variable (serviceName : String) (instances : Slice) (r after : InMemoryRegistry)

theorem same_lists_notify_all (chs : List Nat) (r : InMemoryRegistry) : SameLists r (chs.foldl (notify serviceName instances) r) := by
  induction chs generalizing r with
  | nil => exact ⟨rfl, rfl, rfl⟩
  | cons ch rest ih =>
    have later := ih (notify serviceName instances r ch)
    exact ⟨later.heap, later.arrays, later.services⟩

theorem same_lists_notify (r : InMemoryRegistry) : SameLists r (r.notifyWatchers serviceName instances) :=
  same_lists_notify_all serviceName instances _ r

theorem listed_same (same : SameLists r after) (serviceName : String) : after.listed serviceName = r.listed serviceName := by
  rw [listed, listed, same.services, same.arrays]

theorem usable_same (heap : after.heap = r.heap) (instances : List InstanceRef) : after.usable instances = r.usable instances := by
  apply List.filter_congr
  intro ref _
  apply decide_eq_decide.mpr
  rw [Down, Down, heap]

theorem get_instances_same (same : SameLists r after) (serviceName : String) :
    after.getInstances serviceName = r.getInstances serviceName := by
  rw [getInstances, getInstances, listed_same r after same, usable_same r after same.heap]

theorem accepts_notify (r : InMemoryRegistry) (ch other : Nat) (full : ¬ r.Accepts ch) :
    (notify serviceName instances r ch).Accepts other ↔ r.Accepts other := by
  simp only [Accepts, notify, Option.mem_def]
  by_cases same : ch = other
  · subst same
    rw [List.getElem?_modify_eq]
    cases found : r.channels[ch]? with
    | none => simp
    | some channel =>
      cases buffered : channel.buffer with
      | none => exact absurd ⟨channel, found, buffered⟩ full
      | some held => simp [Channel.offer, buffered]
  · rw [List.getElem?_modify_ne _ _ same]

end Notifying

section Stored

def Stored (r : InMemoryRegistry) : Prop :=
  ∀ serviceName instances, r.services.lookup serviceName = some instances → Within r.arrays instances

theorem stored_same (r after : InMemoryRegistry) (same : SameLists r after) (stored : r.Stored) : after.Stored := by
  intro serviceName instances
  rw [same.services, same.arrays]
  exact stored serviceName instances

variable (r : InMemoryRegistry) (serviceName : String)

theorem listed_grow (backing : Backing InstanceRef) (stored : r.Stored) (serviceName : String) :
    ({ r with arrays := r.arrays ++ [backing] } : InMemoryRegistry).listed serviceName = r.listed serviceName := by
  simp only [listed]
  cases found : r.services.lookup serviceName with
  | none => rfl
  | some instances => exact contents_old _ _ _ (within_bound _ _ (stored serviceName instances found))

theorem stored_insert (arrays : Arrays InstanceRef) (kept : Slice) (within : Within arrays kept)
    (old : ∀ slice, Within r.arrays slice → Within arrays slice) (stored : r.Stored) :
    ({ r with arrays, services := r.services.insert serviceName kept } : InMemoryRegistry).Stored := by
  intro name instances found
  rw [AList.lookup_insert_eq] at found
  split at found
  · cases found
    exact within
  · exact old instances (stored name instances found)

theorem stored_store (arrays : Arrays InstanceRef) (kept passed : Slice) (within : Within arrays kept)
    (old : ∀ slice, Within r.arrays slice → Within arrays slice) (stored : r.Stored) :
    (notifyWatchers serviceName passed { r with arrays, services := r.services.insert serviceName kept }).Stored :=
  stored_same _ _ (same_lists_notify serviceName passed _) (stored_insert r serviceName arrays kept within old stored)

theorem stored_register (ref : InstanceRef) (growth : Nat) (stored : r.Stored) : (r.register ref growth).Stored := by
  rw [register]
  cases r.heap[ref]? with
  | none => exact stored
  | some instance_ =>
    simp only
    cases known : r.services.lookup instance_.name with
    | none =>
      apply stored_store _ _ _ _ _ (within_old _ _ _ (within_make _ _ _)) _ stored
      exact fun slice within => within_old _ _ _ (within_old _ _ _ within)
    | some instances =>
      have own := stored instance_.name instances known
      simp only
      split
      · exact stored_store _ _ _ _ _ (within_assign _ _ _ _ _ own) (fun slice => within_assign _ _ slice _ _) stored
      · exact stored_store _ _ _ _ _ (within_append _ _ _ _ own) (fun slice => within_append_old _ _ slice _ _) stored

theorem stored_cleanup (order : Shuffle (String × Slice)) (stored : r.Stored) : (r.cleanup order).Stored := by
  rw [cleanup]
  generalize order.apply r.services.pairs = entries
  induction entries generalizing r with
  | nil => exact stored
  | cons entry rest ih =>
    apply ih
    rw [cleanupService]
    simp only
    split
    · exact stored_store _ _ _ _ _ (within_make _ _ _) (fun slice => within_old _ _ slice) stored
    · exact stored

theorem stored_step (call : Call) (stored : r.Stored) : (r.step call).Stored := by
  cases call with
  | create instance_ => exact stored
  | register ref growth => exact stored_register r ref growth stored
  | deregister instanceID order =>
    change (r.deregister instanceID order).2.Stored
    rw [deregister]
    split
    · exact stored
    · exact stored_same _ _ (same_lists_notify _ _ _) stored
  | cleanup order => exact stored_cleanup r order stored
  | watchService serviceName => exact fun name instances found => within_old _ _ _ (stored name instances found)
  | cancel ch =>
    change (r.cancel ch).Stored
    rw [cancel]
    split
    · exact stored
    · split <;> exact stored
  | receive ch => exact stored

end Stored

section Usable

def Faithful (r : InMemoryRegistry) : Prop := ∀ sent ∈ r.sent, sent.instances = sent.current

instance decidableFaithful (r : InMemoryRegistry) : Decidable r.Faithful :=
  inferInstanceAs (Decidable (∀ sent ∈ r.sent, sent.instances = sent.current))

def Awaited (r : InMemoryRegistry) (serviceName : String) : Prop := ∃ ch ∈ r.watchers serviceName, r.Accepts ch

instance decidableAwaited (r : InMemoryRegistry) (serviceName : String) : Decidable (r.Awaited serviceName) :=
  inferInstanceAs (Decidable (∃ ch ∈ r.watchers serviceName, r.Accepts ch))

-- Nobody waits for the list of a Deregister. Where somebody waits for that of Register,
-- neither the new instance is down nor one listed beside the one it takes the place of.
def SendsUsable (r : InMemoryRegistry) : Call → Prop
  | .register ref _ =>
    ∀ instance_ ∈ r.heap[ref]?, r.Awaited instance_.name → ¬ r.Down ref ∧
      ∀ other ∈ (r.listed instance_.name).eraseP (r.HasID instance_.id ·), ¬ r.Down other
  | .deregister instanceID order => ∀ found ∈ r.locate instanceID order, ¬ r.Awaited found.1
  | .create _ | .cleanup _ | .watchService _ | .cancel _ | .receive _ => True

variable (r : InMemoryRegistry) (serviceName : String) (instances : Slice)

theorem faithful_notify_all (chs : List Nat) (r : InMemoryRegistry) :
    (chs.foldl (notify serviceName instances) r).Faithful ↔
      r.Faithful ∧ ((∃ ch ∈ chs, r.Accepts ch) → contents r.arrays instances = r.getInstances serviceName) := by
  induction chs generalizing r with
  | nil => simp
  | cons ch rest ih =>
    rw [List.foldl_cons, ih]
    have current : (notify serviceName instances r ch).getInstances serviceName = r.getInstances serviceName :=
      get_instances_same r _ ⟨rfl, rfl, rfl⟩ serviceName
    rw [current]
    change _ ∧ (_ → contents r.arrays instances = r.getInstances serviceName) ↔ _
    by_cases room : r.Accepts ch
    · have logged : (notify serviceName instances r ch).Faithful ↔
          r.Faithful ∧ contents r.arrays instances = r.getInstances serviceName := by
        simp only [Faithful, notify, if_pos room, List.forall_mem_append, List.forall_mem_singleton, record]
      have awaited : ∃ ch_1 ∈ ch :: rest, r.Accepts ch_1 := ⟨ch, List.mem_cons_self, room⟩
      rw [logged]
      constructor
      · exact fun both => ⟨both.1.1, fun _ => both.1.2⟩
      · exact fun both => ⟨⟨both.1, both.2 awaited⟩, fun _ => both.2 awaited⟩
    · have logged : (notify serviceName instances r ch).Faithful ↔ r.Faithful := by
        simp only [Faithful, notify, if_neg room]
      simp only [logged, accepts_notify serviceName instances r ch _ room, List.exists_mem_cons_iff, room, false_or]

theorem faithful_notify (r : InMemoryRegistry) :
    (r.notifyWatchers serviceName instances).Faithful ↔
      r.Faithful ∧ (r.Awaited serviceName → contents r.arrays instances = r.getInstances serviceName) :=
  faithful_notify_all serviceName instances (r.watchers serviceName) r

theorem usable_eq_self (instances : List InstanceRef) : instances = r.usable instances ↔ ∀ ref ∈ instances, ¬ r.Down ref := by
  rw [eq_comm, usable, List.filter_eq_self]
  simp only [decide_eq_true_eq]

theorem listed_stored (arrays : Arrays InstanceRef) (stored : Slice) :
    ({ r with arrays, services := r.services.insert serviceName stored } : InMemoryRegistry).listed serviceName =
      contents arrays stored := by
  simp [listed]

theorem faithful_store (arrays : Arrays InstanceRef) (stored passed : Slice) (same : contents arrays passed = contents arrays stored)
    (faithful : r.Faithful) :
    (notifyWatchers serviceName passed { r with arrays, services := r.services.insert serviceName stored }).Faithful ↔
      (r.Awaited serviceName → ∀ other ∈ contents arrays stored, ¬ r.Down other) := by
  rw [faithful_notify]
  simp only [getInstances, listed_stored, same, usable_eq_self]
  exact and_iff_right faithful

theorem register_faithful_iff (ref : InstanceRef) (growth : Nat) (stored : r.Stored) (faithful : r.Faithful) :
    (r.register ref growth).Faithful ↔ r.SendsUsable (.register ref growth) := by
  rw [SendsUsable, register]
  cases found : r.heap[ref]? with
  | none => simp [faithful]
  | some instance_ =>
    simp only [Option.mem_some, forall_eq', listed]
    cases known : r.services.lookup instance_.name with
    | none =>
      have fresh := contents_make [ref] 1 r.arrays
      have same : contents (make [ref] 1 (make [ref] 1 r.arrays).2).2 (make [ref] 1 r.arrays).1 = [ref] := by
        rw [make, contents_old _ _ _ (by simp [make]), fresh]
      rw [faithful_store r instance_.name _ _ _ ((contents_make _ _ _).trans same.symm) faithful, same]
      simp
    | some instances =>
      simp only [List.eraseP_eq_eraseIdx]
      cases position : (contents r.arrays instances).findIdx? fun other => r.HasID instance_.id other with
      | some i =>
        have inside := (List.findIdx?_eq_some_iff_findIdx_eq.mp position).1
        have replaced other := (List.set_perm_cons_eraseIdx inside ref).mem_iff (a := other)
        simp only [faithful_store r instance_.name _ _ _ rfl faithful, contents_assign, replaced, List.forall_mem_cons]
      | none =>
        have longer := contents_append r.arrays instances ref growth (stored _ _ known)
        simp only [faithful_store r instance_.name _ _ _ rfl faithful, longer, List.forall_mem_append,
          List.forall_mem_singleton, and_comm]

theorem located (instanceID svcName : String) (order : Shuffle (String × Slice)) (instances : Slice) (ref : InstanceRef)
    (found : r.locate instanceID order = some (svcName, instances, ref)) :
    r.services.lookup svcName = some instances ∧ ref ∈ contents r.arrays instances ∧ r.HasID instanceID ref := by
  obtain ⟨entry, member, matched⟩ := List.exists_of_findSome?_eq_some found
  obtain ⟨own, first, same⟩ := Option.map_eq_some_iff.mp matched
  cases same
  have entered := (order.mem_apply _ _).mp member
  refine ⟨(AList.mem_pairs _ _ _).mp entered, List.mem_of_find?_eq_some first, ?_⟩
  simpa using List.find?_some first

theorem marked_down (instanceID : String) (ref : InstanceRef) (has : r.HasID instanceID ref) : (r.markDown ref).Down ref := by
  obtain ⟨instance_, found, -⟩ := Option.map_eq_some_iff.mp has
  simp [Down, markDown, found]

theorem deregister_faithful_iff (instanceID : String) (order : Shuffle (String × Slice)) (faithful : r.Faithful) :
    (r.deregister instanceID order).2.Faithful ↔ r.SendsUsable (.deregister instanceID order) := by
  rw [SendsUsable, deregister]
  cases found : r.locate instanceID order with
  | none => simp [faithful]
  | some target =>
    obtain ⟨svcName, instances, ref⟩ := target
    obtain ⟨stored, member, has⟩ := located r instanceID svcName order instances ref found
    have own : (r.markDown ref).listed svcName = contents r.arrays instances := by simp [listed, markDown, stored]
    have differs : ¬ contents (r.markDown ref).arrays instances = (r.markDown ref).getInstances svcName := by
      rw [getInstances, own]
      intro same
      exact (usable_eq_self _ _).mp same ref member (marked_down r instanceID ref has)
    have awaited : (r.markDown ref).Awaited svcName ↔ r.Awaited svcName := Iff.rfl
    simp only [faithful_notify, awaited, Option.mem_some, forall_eq', imp_iff_not differs]
    exact and_iff_right faithful

theorem usable_usable (instances : List InstanceRef) : r.usable (r.usable instances) = r.usable instances := by
  simp [usable, List.filter_filter]

theorem cleanup_service_faithful (entry : String × Slice) (faithful : r.Faithful) : (r.cleanupService entry).Faithful := by
  rw [cleanupService]
  simp only
  split
  · rw [faithful_notify]
    refine ⟨faithful, fun _ => ?_⟩
    rw [getInstances, listed_stored, contents_make]
    exact (usable_usable r _).symm
  · exact faithful

theorem cleanup_faithful (order : Shuffle (String × Slice)) (faithful : r.Faithful) : (r.cleanup order).Faithful := by
  rw [cleanup]
  generalize order.apply r.services.pairs = entries
  induction entries generalizing r with
  | nil => exact faithful
  | cons entry rest ih => exact ih (r.cleanupService entry) (cleanup_service_faithful r entry faithful)

theorem watch_instances (stored : r.Stored) : (r.watchService serviceName).getInstances serviceName = r.getInstances serviceName := by
  rw [getInstances, usable_same r (r.watchService serviceName) rfl, getInstances]
  exact congrArg r.usable (listed_grow r _ stored serviceName)

theorem watch_faithful (stored : r.Stored) (faithful : r.Faithful) : (r.watchService serviceName).Faithful := by
  intro sent member
  rcases List.mem_append.mp member with before | now
  · exact faithful sent before
  · rw [List.mem_singleton.mp now]
    exact (contents_make _ _ _).trans (watch_instances r serviceName stored).symm

theorem faithful_step_iff (call : Call) (stored : r.Stored) (faithful : r.Faithful) : (r.step call).Faithful ↔ r.SendsUsable call := by
  cases call with
  | create instance_ | receive ch => exact iff_of_true faithful trivial
  | register ref growth => exact register_faithful_iff r ref growth stored faithful
  | deregister instanceID order => exact deregister_faithful_iff r instanceID order faithful
  | cleanup order => exact iff_of_true (cleanup_faithful r order faithful) trivial
  | watchService serviceName => exact iff_of_true (watch_faithful r serviceName stored faithful) trivial
  | cancel ch =>
    refine iff_of_true ?_ trivial
    change (r.cancel ch).Faithful
    rw [cancel]
    split
    · exact faithful
    · split <;> exact faithful

theorem sent_lists_usable_iff (calls : List Call) :
    (∀ seen ∈ Runs.visited step {} calls, seen.Faithful) ↔ Runs.Meets step SendsUsable {} calls := by
  refine Runs.visited_iff_meets step Stored Faithful SendsUsable stored_step faithful_step_iff {} calls ?_ ?_
  · intro serviceName instances found
    cases found
  · intro sent member
    cases member

def watchedDeregister : List Call :=
  [.create ⟨"watch-1", "watch-service", .active⟩, .register 0 0, .watchService "watch-service", .receive 0,
    .deregister "watch-1" .listed]

theorem deregistered_instance_sent :
    (watchedDeregister.foldl step {}).sent.getLast? = some ⟨"watch-service", [0], []⟩ ∧
      (watchedDeregister.foldl step {}).Down 0 ∧ ¬ (watchedDeregister.foldl step {}).Faithful := by
  decide +kernel

end Usable

end InMemoryRegistry

end MmoServer.Rpc
