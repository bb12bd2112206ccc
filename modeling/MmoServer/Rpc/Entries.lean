import MmoServer.Lib.Keyed
import MmoServer.Rpc.Watchers

set_option autoImplicit false

namespace MmoServer.Rpc

open Slices

inductive Event where
  | registered (ref : InstanceRef) (value : ServiceInstance)
  | deregistered (id : String)
deriving DecidableEq, Repr

def Event.id : Event → String
  | registered _ value => value.id
  | deregistered id => id

namespace InMemoryRegistry

section Effects

variable (r after : InMemoryRegistry)

def events : Call → List Event
  | .register ref _ => r.heap[ref]?.toList.map (.registered ref)
  | .deregister instanceID _ => [.deregistered instanceID]
  | _ => []

def idOf (ref : InstanceRef) : Option String := r.heap[ref]?.map ServiceInstance.id

inductive Effect : List Event → Prop
  | quiet (heap : after.heap = r.heap) (lists : ∀ serviceName, after.listed serviceName = r.listed serviceName) : Effect []
  | created (value : ServiceInstance) (heap : after.heap = r.heap ++ [value])
      (lists : ∀ serviceName, after.listed serviceName = r.listed serviceName) : Effect []
  | cleaned (heap : after.heap = r.heap)
      (lists : ∀ serviceName, after.listed serviceName = r.usable (r.listed serviceName)) : Effect []
  | placed (ref : InstanceRef) (value : ServiceInstance) (found : r.heap[ref]? = some value) (heap : after.heap = r.heap)
      (own : after.listed value.name = Keyed.put r.idOf ref (r.listed value.name))
      (others : ∀ other, other ≠ value.name → after.listed other = r.listed other) : Effect [.registered ref value]
  | missed (instanceID : String) (absent : ∀ serviceName, ∀ ref ∈ r.listed serviceName, ¬ r.HasID instanceID ref)
      (heap : after.heap = r.heap) (lists : ∀ serviceName, after.listed serviceName = r.listed serviceName) :
      Effect [.deregistered instanceID]
  | marked (instanceID svcName : String) (ref : InstanceRef) (member : ref ∈ r.listed svcName) (has : r.HasID instanceID ref)
      (heap : after.heap = (r.markDown ref).heap) (lists : ∀ serviceName, after.listed serviceName = r.listed serviceName) :
      Effect [.deregistered instanceID]

theorem put_ref (ref : InstanceRef) (value : ServiceInstance) (instances : List InstanceRef) (found : r.heap[ref]? = some value) :
    Keyed.put r.idOf ref instances =
      match instances.findIdx? fun other => r.HasID value.id other with
      | some i => instances.set i ref
      | none => instances ++ [ref] := by
  have own : r.idOf ref = some value.id := by rw [idOf, found]; rfl
  simp only [Keyed.put, own]
  rfl

theorem effect_change (middle : InMemoryRegistry) (ref : InstanceRef) (value : ServiceInstance) (kept passed : Slice)
    (current : r.Current) (found : r.heap[ref]? = some value) (change : Change r middle value.name kept passed)
    (heap : middle.heap = r.heap) (own : contents middle.arrays kept = Keyed.put r.idOf ref (r.listed value.name)) :
    Effect r (middle.notifyWatchers value.name passed) [.registered ref value] := by
  have lists := same_lists_notify value.name passed middle
  apply Effect.placed ref value found (lists.heap.trans heap)
  · rw [listed_same _ _ lists, change_listed_own _ _ _ _ _ change, own]
  · intro other different
    rw [listed_same _ _ lists, change_listed_other _ _ _ _ _ current change other different]

theorem register_effect (ref : InstanceRef) (growth : Nat) (current : r.Current) :
    Effect r (r.register ref growth) (r.events (.register ref growth)) := by
  cases found : r.heap[ref]? with
  | none =>
    simp only [register, events, found, Option.toList_none, List.map_nil]
    exact .quiet rfl fun _ => rfl
  | some value =>
    have name : r.heap[ref]?.map ServiceInstance.name = some value.name := by rw [found]; rfl
    simp only [register, events, found, Option.toList_some, List.map_cons, List.map_nil]
    cases known : r.services.lookup value.name with
    | none =>
      have change := change_new r value.name ref current.stored name
      apply effect_change r _ ref value _ _ current found change rfl
      have empty : r.listed value.name = [] := by rw [listed, known]
      rw [← change.passes, contents_make, empty]
      rfl
    | some instances =>
      have within := current.stored value.name instances known
      have listing : r.listed value.name = contents r.arrays instances := by rw [listed, known]
      simp only
      split
      · rename_i i position
        apply effect_change r _ ref value _ _ current found (change_replace r value.name ref instances i current known name) rfl
        rw [contents_assign, put_ref r ref value _ found, listing, position]
      · rename_i position
        apply effect_change r _ ref value _ _ current found (change_append r value.name ref instances growth current known name) rfl
        rw [contents_append _ _ _ _ within, put_ref r ref value _ found, listing, position]

theorem locate_eq_none (instanceID serviceName : String) (order : Shuffle (String × Slice)) (found : r.locate instanceID order = none) :
    ∀ ref ∈ r.listed serviceName, ¬ r.HasID instanceID ref := by
  intro ref member has
  cases known : r.services.lookup serviceName with
  | none =>
    rw [listed, known] at member
    cases member
  | some instances =>
    rw [listed, known] at member
    have entry : (serviceName, instances) ∈ order.apply r.services.pairs :=
      (order.mem_apply _ _).mpr ((AList.mem_pairs _ _ _).mpr known)
    have missing := List.findSome?_eq_none_iff.mp found _ entry
    rw [Option.map_eq_none_iff, List.find?_eq_none] at missing
    exact missing ref member (decide_eq_true has)

theorem deregister_effect (instanceID : String) (order : Shuffle (String × Slice)) :
    Effect r (r.deregister instanceID order).2 [.deregistered instanceID] := by
  rw [deregister]
  cases found : r.locate instanceID order with
  | none => exact .missed instanceID (fun serviceName => locate_eq_none r instanceID serviceName order found) rfl fun _ => rfl
  | some target =>
    obtain ⟨svcName, instances, ref⟩ := target
    obtain ⟨known, member, has⟩ := located r instanceID svcName order instances ref found
    have lists := same_lists_notify svcName instances (r.markDown ref)
    apply Effect.marked instanceID svcName ref (by rwa [listed, known]) has lists.heap
    exact listed_same (r.markDown ref) _ lists

theorem cleanup_service_effect (entry : String × Slice) (current : r.Current) (known : r.services.lookup entry.1 = some entry.2) :
    (r.cleanupService entry).heap = r.heap ∧ (r.cleanupService entry).listed entry.1 = r.usable (r.listed entry.1) ∧
      ∀ other, other ≠ entry.1 → (r.cleanupService entry).listed other = r.listed other := by
  have listing : r.listed entry.1 = contents r.arrays entry.2 := by rw [listed, known]
  rw [cleanupService, listing]
  simp only
  split
  · have change := change_cleanup r entry.1 entry.2 (contents r.arrays entry.2).length current known
    have lists := same_lists_notify entry.1 (make (r.usable (contents r.arrays entry.2)) (contents r.arrays entry.2).length r.arrays).1
      { r with
        arrays := (make (r.usable (contents r.arrays entry.2)) (contents r.arrays entry.2).length r.arrays).2
        services := r.services.insert entry.1
          (make (r.usable (contents r.arrays entry.2)) (contents r.arrays entry.2).length r.arrays).1 }
    refine ⟨lists.heap, ?_, ?_⟩
    · rw [listed_same _ _ lists, change_listed_own _ _ _ _ _ change]
      exact contents_make _ _ _
    · intro other different
      rw [listed_same _ _ lists, change_listed_other _ _ _ _ _ current change other different]
  · rename_i clean
    refine ⟨rfl, ?_, fun _ _ => rfl⟩
    rw [listing]
    apply (usable_eq_self r _).mpr
    exact fun ref member down => clean ⟨ref, member, down⟩

theorem cleanup_entries_effect (entries : List (String × Slice)) (distinct : (entries.map Prod.fst).Nodup)
    (known : ∀ entry ∈ entries, r.services.lookup entry.1 = some entry.2) (current : r.Current) :
    (entries.foldl cleanupService r).heap = r.heap ∧ ∀ serviceName, (entries.foldl cleanupService r).listed serviceName =
      if serviceName ∈ entries.map Prod.fst then r.usable (r.listed serviceName) else r.listed serviceName := by
  induction entries generalizing r with
  | nil => exact ⟨rfl, fun serviceName => by simp⟩
  | cons entry rest ih =>
    have here := known entry List.mem_cons_self
    obtain ⟨heap, own, others⟩ := cleanup_service_effect r entry current here
    have next : (r.cleanupService entry).Current :=
      current_cleanup_entries r [entry] (List.nodup_singleton _) (by simpa using here) current
    rw [List.map_cons, List.nodup_cons] at distinct
    have still : ∀ other ∈ rest, (r.cleanupService entry).services.lookup other.1 = some other.2 := by
      intro other member
      have different : other.1 ≠ entry.1 := fun same => distinct.1 (same ▸ List.mem_map_of_mem member)
      rw [cleanup_service_lookup r entry other.1 different]
      exact known other (List.mem_cons_of_mem _ member)
    obtain ⟨later, lists⟩ := ih (r.cleanupService entry) distinct.2 still next
    refine ⟨later.trans heap, fun serviceName => ?_⟩
    rw [List.foldl_cons, lists, List.map_cons, usable_same r _ heap]
    by_cases first : serviceName = entry.1
    · rw [if_neg (first ▸ distinct.1), if_pos (first ▸ List.mem_cons_self), first, own]
    · simp only [List.mem_cons, first, false_or, others serviceName first]

theorem cleanup_effect (order : Shuffle (String × Slice)) (current : r.Current) : Effect r (r.cleanup order) [] := by
  have entries : ∀ entry, entry ∈ order.apply r.services.pairs ↔ r.services.lookup entry.1 = some entry.2 :=
    fun entry => (order.mem_apply _ _).trans (AList.mem_pairs _ _ _)
  have distinct : ((order.apply r.services.pairs).map Prod.fst).Nodup := by
    rw [((order.perm r.services.pairs).map Prod.fst).nodup_iff, AList.pairs_keys]
    exact AList.keys_nodup _
  obtain ⟨heap, lists⟩ := cleanup_entries_effect r _ distinct (fun entry => (entries entry).mp) current
  apply Effect.cleaned heap
  intro serviceName
  rw [lists]
  split
  · rfl
  · rename_i absent
    cases known : r.services.lookup serviceName with
    | none =>
      rw [listed, known]
      rfl
    | some instances =>
      have entry := (entries (serviceName, instances)).mpr known
      exact absurd (List.mem_map_of_mem entry) absent

theorem step_effect (call : Call) (current : r.Current) : Effect r (r.step call) (r.events call) := by
  cases call with
  | create value => exact .created value rfl fun _ => rfl
  | register ref growth => exact register_effect r ref growth current
  | deregister instanceID order => exact deregister_effect r instanceID order
  | cleanup order => exact cleanup_effect r order current
  | watchService serviceName => exact .quiet rfl (listed_grow r _ current.stored)
  | cancel ch =>
    have lists : SameLists r (r.cancel ch) := by
      simp only [cancel]
      split
      · exact ⟨rfl, rfl, rfl⟩
      · split <;> exact ⟨rfl, rfl, rfl⟩
    exact .quiet lists.heap (listed_same _ _ lists)
  | receive ch => exact .quiet rfl fun _ => rfl

end Effects

section Uniqueness

variable (r after : InMemoryRegistry)

def Unique : Prop := ∀ serviceName, ((r.listed serviceName).map r.idOf).Nodup

theorem unique_sublist (ids : ∀ serviceName, ∀ ref ∈ r.listed serviceName, after.idOf ref = r.idOf ref)
    (lists : ∀ serviceName, (after.listed serviceName).Sublist (r.listed serviceName)) (unique : r.Unique) : after.Unique := by
  intro serviceName
  have same : (after.listed serviceName).map after.idOf = (after.listed serviceName).map r.idOf :=
    List.map_congr_left fun ref member => ids serviceName ref ((lists serviceName).subset member)
  rw [same]
  exact ((lists serviceName).map r.idOf).nodup (unique serviceName)

theorem mark_down_id (ref other : InstanceRef) : (r.markDown ref).idOf other = r.idOf other := by
  simp only [idOf, markDown, List.getElem?_modify, Option.map_eq_map, Option.map_map]
  congr 1
  funext value
  by_cases same : ref = other <;> simp [same]

theorem effect_ids (events : List Event) (current : r.Current) (effect : Effect r after events) (serviceName : String) :
    ∀ ref ∈ r.listed serviceName, after.idOf ref = r.idOf ref := by
  intro ref member
  cases effect with
  | created value heap =>
    obtain ⟨found, its, -⟩ := Option.map_eq_some_iff.mp (current.named serviceName ref member)
    rw [idOf, heap, List.getElem?_append_left (List.getElem?_eq_some_iff.mp its).1, idOf]
  | marked instanceID svcName marked _ _ heap => rw [idOf, heap, ← idOf, mark_down_id]
  | _ => simp only [idOf, *]

theorem unique_effect (events : List Event) (current : r.Current) (unique : r.Unique) (effect : Effect r after events) :
    after.Unique := by
  have ids := effect_ids r after events current effect
  cases effect with
  | placed ref value found heap own others =>
    intro serviceName
    have same : after.idOf = r.idOf := by
      funext other
      rw [idOf, heap, idOf]
    rw [same]
    by_cases here : serviceName = value.name
    · rw [here, own]
      exact Keyed.put_nodup r.idOf ref _ (unique value.name)
    · rw [others serviceName here]
      exact unique serviceName
  | cleaned heap lists => exact unique_sublist r after ids (fun serviceName => lists serviceName ▸ List.filter_sublist) unique
  | quiet heap lists | created value heap lists | missed instanceID absent heap lists | marked instanceID svcName ref member has heap lists =>
    exact unique_sublist r after ids (fun serviceName => lists serviceName ▸ List.Sublist.refl _) unique

theorem unique_same (unique : r.Unique) (serviceName id : String) (first second : InstanceRef) (one : first ∈ r.listed serviceName)
    (two : second ∈ r.listed serviceName) (has : r.HasID id first) (also : r.HasID id second) : first = second :=
  List.inj_on_of_nodup_map (unique serviceName) one two (has.trans also.symm)

end Uniqueness

end InMemoryRegistry

end MmoServer.Rpc
