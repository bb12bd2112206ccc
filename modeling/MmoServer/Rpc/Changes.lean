import MmoServer.Rpc.Currency

set_option autoImplicit false

namespace MmoServer.Rpc

open Slices

namespace InMemoryRegistry

section Changes

variable (r : InMemoryRegistry)

variable (serviceName : String) (ref : InstanceRef) (instances : Slice)

theorem change_store (arrays : Arrays InstanceRef) (kept passed : Slice) (stored : r.Stored) (within : Within arrays kept)
    (olds : ∀ slice, Within r.arrays slice → Within arrays slice) (size : r.arrays.length ≤ arrays.length)
    (keptPlace : r.arrays.length ≤ kept.array ∨ ∃ before, r.services.lookup serviceName = some before ∧
      before.array = kept.array ∧ before.len ≤ kept.len)
    (passedPlace : passed.array < arrays.length ∧ (r.arrays.length ≤ passed.array ∨ passed = kept))
    (passedShort : passed.len ≤ kept.len) (passes : contents arrays passed = contents arrays kept)
    (frame : ∀ slice, slice.array < r.arrays.length →
      (∀ before, r.services.lookup serviceName = some before → slice.array ≠ before.array) → contents arrays slice = contents r.arrays slice)
    (members : ∀ ref ∈ contents arrays kept, r.heap[ref]?.map ServiceInstance.name = some serviceName) :
    Change r { r with arrays, services := r.services.insert serviceName kept } serviceName kept passed where
  channels := rfl
  watches := rfl
  others other different := by simp [different]
  own := by simp
  stored := stored_insert r serviceName arrays kept within olds stored
  size := size
  keptPlace := keptPlace
  passedPlace := passedPlace
  passedShort _ := passedShort
  passes := passes
  frame := frame
  names _ := rfl
  status _ _ := Iff.rfl
  members := members

theorem change_new (stored : r.Stored) (name : r.heap[ref]?.map ServiceInstance.name = some serviceName) :
    let kept := make [ref] 1 r.arrays
    let passed := make [ref] 1 kept.2
    Change r { r with arrays := passed.2, services := r.services.insert serviceName kept.1 } serviceName kept.1 passed.1 := by
  intro kept passed
  have keptItems : contents passed.2 kept.1 = [ref] := by
    simp only [passed, make]
    rw [contents_old _ _ _ (by simp [kept, make])]
    exact contents_make _ _ _
  apply change_store r serviceName passed.2 kept.1 passed.1 stored (within_old _ _ _ (within_make _ _ _))
  · exact fun slice within => within_old _ _ _ (within_old _ _ _ within)
  · simp [passed, kept, make]
  · exact .inl le_rfl
  · exact ⟨by simp [passed, make], .inl (by simp [passed, kept, make])⟩
  · exact le_rfl
  · exact (contents_make _ _ _).trans keptItems.symm
  · intro slice old _
    simp only [passed, make]
    rw [contents_old _ _ _ (by simp only [kept, make, List.length_append]; omega)]
    exact contents_old _ _ _ old
  · intro other member
    rw [keptItems, List.mem_singleton] at member
    rwa [member]

theorem change_replace (i : Nat) (current : r.Current) (known : r.services.lookup serviceName = some instances)
    (name : r.heap[ref]?.map ServiceInstance.name = some serviceName) :
    Change r { r with arrays := assign instances i ref r.arrays, services := r.services.insert serviceName instances }
      serviceName instances instances := by
  have within := current.stored serviceName instances known
  have size : (assign instances i ref r.arrays).length = r.arrays.length := List.length_modify ..
  apply change_store r serviceName _ instances instances current.stored (within_assign _ _ _ _ _ within)
  · exact fun slice => within_assign _ _ slice _ _
  · exact size.ge
  · exact .inr ⟨instances, known, rfl, le_rfl⟩
  · exact ⟨by rw [size]; exact within_bound _ _ within, .inr rfl⟩
  · exact le_rfl
  · rfl
  · exact fun slice _ apart => contents_assign_other _ _ _ _ _ (apart instances known)
  · intro other member
    rw [contents_assign] at member
    rcases List.mem_or_eq_of_mem_set member with before | new
    · exact current.named serviceName other (by rwa [listed, known])
    · rwa [new]

theorem change_append (growth : Nat) (current : r.Current) (known : r.services.lookup serviceName = some instances)
    (name : r.heap[ref]?.map ServiceInstance.name = some serviceName) : let longer := append instances ref growth r.arrays
    Change r { r with arrays := longer.2, services := r.services.insert serviceName longer.1 } serviceName longer.1 longer.1 := by
  intro longer
  have within := current.stored serviceName instances known
  apply change_store r serviceName _ longer.1 longer.1 current.stored (within_append _ _ _ _ within)
  · exact fun slice => within_append_old _ _ slice _ _
  · exact append_size _ _ _ _
  · rcases append_array r.arrays instances ref growth within with ⟨same, grown⟩ | fresh
    · exact .inr ⟨instances, known, same.symm, by simp only [longer, grown]; omega⟩
    · exact .inl fresh.ge
  · exact ⟨within_bound _ _ (within_append _ _ _ _ within), .inr rfl⟩
  · exact le_rfl
  · rfl
  · intro slice old apart
    exact contents_append_old _ _ _ _ _ within old fun same => absurd same (apart instances known)
  · intro other member
    rw [contents_append _ _ _ _ within] at member
    rcases List.mem_append.mp member with before | new
    · exact current.named serviceName other (by rwa [listed, known])
    · rwa [List.mem_singleton.mp new]

theorem current_register (growth : Nat) (current : r.Current) : (r.register ref growth).Current := by
  rw [register]
  cases found : r.heap[ref]? with
  | none => exact current
  | some instance_ =>
    have name : r.heap[ref]?.map ServiceInstance.name = some instance_.name := by rw [found]; rfl
    simp only
    cases known : r.services.lookup instance_.name with
    | none => exact current_change _ _ _ _ _ current (change_new r instance_.name ref current.stored name)
    | some instances =>
      simp only
      split
      · exact current_change _ _ _ _ _ current (change_replace r instance_.name ref instances _ current known name)
      · exact current_change _ _ _ _ _ current (change_append r instance_.name ref instances growth current known name)

theorem change_down (ref : InstanceRef) (current : r.Current) (known : r.services.lookup serviceName = some instances)
    (member : ref ∈ contents r.arrays instances) :
    Change r (r.markDown ref) serviceName instances instances where
  channels := rfl
  watches := rfl
  others _ _ := rfl
  own := known
  stored := current.stored
  size := le_rfl
  keptPlace := .inr ⟨instances, known, rfl, le_rfl⟩
  passedPlace := ⟨within_bound _ _ (current.stored serviceName instances known), .inr rfl⟩
  passedShort _ := le_rfl
  passes := rfl
  frame _ _ _ := rfl
  names other := by
    simp only [markDown, List.getElem?_modify, Option.map_eq_map, Option.map_map]
    congr 1
    funext instance_
    by_cases same : ref = other <;> simp [same]
  status other away := by
    have name := current.named serviceName ref (by rwa [listed, known])
    have different : ref ≠ other := by
      intro same
      rw [← same] at away
      exact away name
    rw [Down, markDown, List.getElem?_modify_ne _ _ different, Down]
  members other its := current.named serviceName other (by rwa [listed, known])

theorem current_deregister (instanceID : String) (order : Shuffle (String × Slice)) (current : r.Current) :
    (r.deregister instanceID order).2.Current := by
  rw [deregister]
  cases found : r.locate instanceID order with
  | none => exact current
  | some target =>
    obtain ⟨svcName, instances, ref⟩ := target
    obtain ⟨known, member, -⟩ := located r instanceID svcName order instances ref found
    exact current_change _ _ _ _ _ current (change_down r svcName instances ref current known member)

theorem change_cleanup (cap : Nat) (current : r.Current) (known : r.services.lookup serviceName = some instances) :
    let active := make (r.usable (contents r.arrays instances)) cap r.arrays
    Change r { r with arrays := active.2, services := r.services.insert serviceName active.1 } serviceName active.1 active.1 := by
  intro active
  apply change_store r serviceName _ active.1 active.1 current.stored (within_make _ _ _)
  · exact fun slice => within_old _ _ slice
  · simp [make]
  · exact .inl le_rfl
  · exact ⟨by simp [active, make], .inr rfl⟩
  · exact le_rfl
  · rfl
  · exact fun slice old _ => contents_old _ _ _ old
  · intro other member
    rw [contents_make] at member
    exact current.named serviceName other (by rw [listed, known]; exact List.mem_of_mem_filter member)

theorem cleanup_service_lookup (entry : String × Slice) (other : String) (different : other ≠ entry.1) :
    (r.cleanupService entry).services.lookup other = r.services.lookup other := by
  rw [cleanupService]
  simp only
  split
  · rw [(same_lists_notify _ _ _).services]
    simp [different]
  · rfl

theorem current_cleanup_entries (entries : List (String × Slice)) (distinct : (entries.map Prod.fst).Nodup)
    (known : ∀ entry ∈ entries, r.services.lookup entry.1 = some entry.2) (current : r.Current) :
    (entries.foldl cleanupService r).Current := by
  induction entries generalizing r with
  | nil => exact current
  | cons entry rest ih =>
    rw [List.map_cons, List.nodup_cons] at distinct
    have here := known entry List.mem_cons_self
    apply ih (r.cleanupService entry) distinct.2
    · intro other member
      have different : other.1 ≠ entry.1 := fun same => distinct.1 (same ▸ List.mem_map_of_mem member)
      rw [cleanup_service_lookup r entry other.1 different]
      exact known other (List.mem_cons_of_mem _ member)
    · rw [cleanupService]
      simp only
      split
      · exact current_change _ _ _ _ _ current (change_cleanup r entry.1 entry.2 _ current here)
      · exact current

theorem current_cleanup (order : Shuffle (String × Slice)) (current : r.Current) : (r.cleanup order).Current := by
  apply current_cleanup_entries r _ _ _ current
  · rw [((order.perm r.services.pairs).map Prod.fst).nodup_iff, AList.pairs_keys]
    exact AList.keys_nodup _
  · intro entry member
    exact (AList.mem_pairs _ _ _).mp ((order.mem_apply _ _).mp member)

end Changes

end InMemoryRegistry

end MmoServer.Rpc
