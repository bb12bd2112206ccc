import MmoServer.Rpc.Entries

set_option autoImplicit false

namespace MmoServer.Rpc

open History

def standing : Option Event → Option (InstanceRef × ServiceInstance)
  | some (.registered ref value) => if value.status = .down then none else some (ref, value)
  | _ => none

def OnlyUnder (id serviceName : String) (past : List Event) : Prop :=
  ∀ ref value, Event.registered ref value ∈ past → value.id = id → value.name = serviceName

theorem only_under_left (id serviceName : String) (past later : List Event) (only : OnlyUnder id serviceName (past ++ later)) :
    OnlyUnder id serviceName past :=
  fun ref value member => only ref value (List.mem_append_left _ member)

namespace InMemoryRegistry

section Agreement

variable (r after : InMemoryRegistry) (id serviceName : String)

-- A list has the instance that is in use, with the value it was registered with, or
-- nothing of the ID but an instance that is down.
def Agrees : Option (InstanceRef × ServiceInstance) → Prop
  | some (ref, value) => ref ∈ r.listed serviceName ∧ r.heap[ref]? = some value ∧ value.id = id ∧ value.status ≠ .down
  | none => ∀ ref ∈ r.listed serviceName, r.HasID id ref → r.Down ref

theorem not_down (ref : InstanceRef) (value : ServiceInstance) (found : r.heap[ref]? = some value) (up : value.status ≠ .down) :
    ¬ r.Down ref := by
  rw [Down, found]
  exact fun down => up (Option.some_inj.mp down)

theorem agrees_frame (expected : Option (InstanceRef × ServiceInstance))
    (same : ∀ ref ∈ r.listed serviceName, r.HasID id ref → after.heap[ref]? = r.heap[ref]?)
    (keeps : ∀ ref ∈ r.listed serviceName, r.HasID id ref → ¬ r.Down ref → ref ∈ after.listed serviceName)
    (only : ∀ ref ∈ after.listed serviceName, after.HasID id ref → ref ∈ r.listed serviceName ∧ r.HasID id ref)
    (agrees : r.Agrees id serviceName expected) : after.Agrees id serviceName expected := by
  match expected with
  | some (ref, value) =>
    obtain ⟨member, found, own, up⟩ := agrees
    have has : r.HasID id ref := by rw [HasID, found, ← own]; rfl
    exact ⟨keeps ref member has (not_down r ref value found up), (same ref member has).trans found, own, up⟩
  | none =>
    intro ref member has
    obtain ⟨before, had⟩ := only ref member has
    rw [Down, same ref before had]
    exact agrees ref before had

theorem agrees_instances (expected : Option (InstanceRef × ServiceInstance)) (unique : r.Unique)
    (agrees : r.Agrees id serviceName expected) :
    ((r.getInstances serviceName).filter fun ref => r.HasID id ref) = (expected.map Prod.fst).toList ∧
      ∀ entry ∈ expected, r.heap[entry.1]? = some entry.2 := by
  match expected with
  | some (ref, value) =>
    obtain ⟨member, found, own, up⟩ := agrees
    have has : r.HasID id ref := by rw [HasID, found, ← own]; rfl
    refine ⟨?_, fun entry its => Option.mem_some.mp its ▸ found⟩
    have distinct : ((r.getInstances serviceName).filter fun ref => r.HasID id ref).Nodup :=
      (((unique serviceName).of_map _).filter _).filter _
    apply List.perm_singleton.mp
    apply (List.perm_ext_iff_of_nodup distinct (List.nodup_singleton ref)).mpr
    intro other
    simp only [getInstances, usable, List.mem_filter, decide_eq_true_eq, List.mem_singleton]
    constructor
    · rintro ⟨⟨listed, -⟩, also⟩
      exact unique_same r unique serviceName id other ref listed member also has
    · rintro rfl
      exact ⟨⟨member, not_down r other value found up⟩, has⟩
  | none =>
    refine ⟨?_, fun entry its => by cases its⟩
    rw [Option.map_none, Option.toList_none, List.filter_eq_nil_iff]
    intro ref member has
    obtain ⟨listed, up⟩ := List.mem_filter.mp member
    exact of_decide_eq_true up (agrees ref listed (of_decide_eq_true has))

end Agreement

section History

variable (r after : InMemoryRegistry)

structure Tracked (past : List Event) : Prop where
  current : r.Current
  unique : r.Unique
  recorded : ∀ serviceName, ∀ ref ∈ r.listed serviceName, ∃ value,
    Event.registered ref value ∈ past ∧ r.HasID value.id ref ∧ value.name = serviceName
  agrees : ∀ id serviceName, OnlyUnder id serviceName past → r.Agrees id serviceName (standing (latest Event.id id past))

theorem recorded_effect (past events : List Event) (tracked : r.Tracked past) (effect : Effect r after events) (serviceName : String) :
    ∀ ref ∈ after.listed serviceName, ∃ value,
      Event.registered ref value ∈ past ++ events ∧ after.HasID value.id ref ∧ value.name = serviceName := by
  have older : ∀ ref ∈ r.listed serviceName, ∃ value,
      Event.registered ref value ∈ past ++ events ∧ after.HasID value.id ref ∧ value.name = serviceName := by
    intro ref member
    obtain ⟨value, known, has, name⟩ := tracked.recorded serviceName ref member
    exact ⟨value, List.mem_append_left _ known, (effect_ids r after events tracked.current effect serviceName ref member).trans has, name⟩
  intro ref member
  cases effect with
  | placed new value found heap own others =>
    have has : r.HasID value.id new := by rw [HasID, found]; rfl
    by_cases here : serviceName = value.name
    · subst here
      rw [own, Keyed.mem_put r.idOf new ref _ (tracked.unique value.name)] at member
      rcases member with rfl | ⟨old, -⟩
      · exact ⟨value, by simp, by rwa [HasID, heap], rfl⟩
      · exact older ref old
    · exact older ref (others serviceName here ▸ member)
  | cleaned heap lists => exact older ref (List.mem_of_mem_filter (lists serviceName ▸ member))
  | quiet heap lists | created value heap lists | missed instanceID absent heap lists | marked instanceID svcName target _ _ heap lists =>
    exact older ref (lists serviceName ▸ member)

variable (id serviceName : String) (ref : InstanceRef)

theorem agrees_placed (value : ServiceInstance) (expected : Option (InstanceRef × ServiceInstance)) (found : r.heap[ref]? = some value)
    (heap : after.heap = r.heap) (own : after.listed value.name = Keyed.put r.idOf ref (r.listed value.name))
    (others : ∀ other, other ≠ value.name → after.listed other = r.listed other) (different : value.id ≠ id) (unique : r.Unique)
    (agrees : r.Agrees id serviceName expected) : after.Agrees id serviceName expected := by
  have has : r.HasID value.id ref := by rw [HasID, found]; rfl
  have members : ∀ other, r.HasID id other → (other ∈ after.listed serviceName ↔ other ∈ r.listed serviceName) := by
    intro other its
    by_cases here : serviceName = value.name
    · have apart : r.idOf other ≠ r.idOf ref := fun same => different (Option.some_inj.mp (has.symm.trans (same.symm.trans its)))
      rw [here, own, Keyed.mem_put r.idOf ref other _ (unique value.name)]
      exact ⟨fun member => (member.resolve_left fun same => apart (congrArg r.idOf same)).1, fun member => .inr ⟨member, apart⟩⟩
    · rw [others serviceName here]
  apply agrees_frame r after id serviceName expected
  · intro other _ _
    rw [heap]
  · exact fun other member its _ => (members other its).mpr member
  · intro other member its
    rw [HasID, heap] at its
    exact ⟨(members other its).mp member, its⟩
  · exact agrees

theorem agrees_marked (id serviceName instanceID : String) (ref : InstanceRef) (expected : Option (InstanceRef × ServiceInstance))
    (has : r.HasID instanceID ref) (heap : after.heap = (r.markDown ref).heap)
    (lists : after.listed serviceName = r.listed serviceName) (different : instanceID ≠ id)
    (agrees : r.Agrees id serviceName expected) : after.Agrees id serviceName expected := by
  apply agrees_frame r after id serviceName expected
  · intro other _ its
    have apart : ref ≠ other := by
      rintro rfl
      exact different (Option.some_inj.mp (has.symm.trans its))
    rw [heap, markDown, List.getElem?_modify_ne _ _ apart]
  · exact fun other member _ _ => lists ▸ member
  · intro other member its
    rw [HasID, heap] at its
    exact ⟨lists ▸ member, (mark_down_id r ref other).symm.trans its⟩
  · exact agrees

theorem agrees_unchanged (expected : Option (InstanceRef × ServiceInstance)) (heap : after.heap = r.heap)
    (lists : after.listed serviceName = r.listed serviceName) (agrees : r.Agrees id serviceName expected) :
    after.Agrees id serviceName expected := by
  apply agrees_frame r after id serviceName expected
  · intro other _ _
    rw [heap]
  · exact fun other member _ _ => lists ▸ member
  · intro other member its
    rw [HasID, heap] at its
    exact ⟨lists ▸ member, its⟩
  · exact agrees

theorem agrees_registered (value : ServiceInstance) (unique : after.Unique) (found : after.heap[ref]? = some value)
    (own : value.id = id) (member : ref ∈ after.listed serviceName) :
    after.Agrees id serviceName (standing (some (.registered ref value))) := by
  have has : after.HasID id ref := by rw [HasID, found, ← own]; rfl
  rw [standing]
  split
  · rename_i down
    intro other listed also
    rw [unique_same after unique serviceName id other ref listed member also has, Down, found, ← down]
    rfl
  · rename_i up
    exact ⟨member, found, own, up⟩

theorem agrees_gone (past : List Event) (instanceID serviceName svcName : String) (ref : InstanceRef) (tracked : r.Tracked past)
    (member : ref ∈ r.listed svcName) (has : r.HasID instanceID ref) (heap : after.heap = (r.markDown ref).heap)
    (lists : after.listed serviceName = r.listed serviceName) (only : OnlyUnder instanceID serviceName past) :
    after.Agrees instanceID serviceName none := by
  obtain ⟨value, known, its, name⟩ := tracked.recorded svcName ref member
  have under : svcName = serviceName := name.symm.trans (only ref value known (Option.some_inj.mp (its.symm.trans has)))
  subst under
  intro other listed also
  rw [lists] at listed
  rw [HasID, heap] at also
  rw [unique_same r tracked.unique svcName instanceID other ref listed member ((mark_down_id r ref other).symm.trans also) has]
  rw [Down, heap]
  exact marked_down r instanceID ref has

theorem agrees_effect (past events : List Event) (tracked : r.Tracked past) (effect : Effect r after events) (id serviceName : String)
    (only : OnlyUnder id serviceName (past ++ events)) :
    after.Agrees id serviceName (standing (latest Event.id id (past ++ events))) := by
  have before := tracked.agrees id serviceName (only_under_left id serviceName past events only)
  have ids := effect_ids r after events tracked.current effect serviceName
  have unique := unique_effect r after events tracked.current tracked.unique effect
  cases effect with
  | quiet heap lists =>
    rw [List.append_nil]
    exact agrees_unchanged r after id serviceName _ heap (lists serviceName) before
  | created value heap lists =>
    rw [List.append_nil]
    apply agrees_frame r after id serviceName _ _ _ _ before
    · intro ref member _
      obtain ⟨found, its, -⟩ := Option.map_eq_some_iff.mp (tracked.current.named serviceName ref member)
      rw [heap, List.getElem?_append_left (List.getElem?_eq_some_iff.mp its).1]
    · exact fun ref member _ _ => lists serviceName ▸ member
    · intro ref member has
      rw [lists] at member
      exact ⟨member, (ids ref member).symm.trans has⟩
  | cleaned heap lists =>
    rw [List.append_nil]
    apply agrees_frame r after id serviceName _ _ _ _ before
    · intro ref _ _
      rw [heap]
    · intro ref member _ up
      rw [lists]
      exact List.mem_filter.mpr ⟨member, decide_eq_true up⟩
    · intro ref member has
      rw [lists] at member
      have old := List.mem_of_mem_filter member
      exact ⟨old, (ids ref old).symm.trans has⟩
  | placed ref value found heap own others =>
    rw [latest_concat]
    split
    · rename_i same
      have name : value.name = serviceName := only ref value (by simp) same
      subst name
      apply agrees_registered after id value.name ref value unique (heap ▸ found) same
      rw [own, Keyed.mem_put r.idOf ref ref _ (tracked.unique value.name)]
      exact .inl rfl
    · rename_i different
      exact agrees_placed r after id serviceName ref value _ found heap own others different tracked.unique before
  | missed instanceID absent heap lists =>
    rw [latest_concat]
    split
    · rename_i same
      intro ref member has
      rw [lists] at member
      rw [HasID, heap] at has
      exact absurd (show r.HasID instanceID ref from has.trans (congrArg some (Eq.symm same))) (absent serviceName ref member)
    · exact agrees_unchanged r after id serviceName _ heap (lists serviceName) before
  | marked instanceID svcName ref member has heap lists =>
    rw [latest_concat]
    split
    · rename_i same
      have same : instanceID = id := same
      subst same
      exact agrees_gone r after past instanceID serviceName svcName ref tracked member has heap (lists serviceName)
        (only_under_left instanceID serviceName past _ only)
    · rename_i different
      exact agrees_marked r after id serviceName instanceID ref _ has heap (lists serviceName) different before

theorem tracked_step (past : List Event) (call : Call) (tracked : r.Tracked past) : (r.step call).Tracked (past ++ r.events call) := by
  have effect := step_effect r call tracked.current
  constructor
  · exact current_step r call tracked.current
  · exact unique_effect r _ _ tracked.current tracked.unique effect
  · exact recorded_effect r _ past _ tracked effect
  · exact agrees_effect r _ past _ tracked effect

theorem tracked_new : ({} : InMemoryRegistry).Tracked [] := by
  constructor
  · exact current_new
  · exact fun _ => List.nodup_nil
  · intro serviceName ref member
    cases member
  · intro id serviceName _ ref member
    cases member

theorem registry_entries_unique_and_current (calls : List Call) :
    ∀ seen ∈ Runs.visited (Runs.record step events) ({}, []) calls,
      (∀ serviceName, ((seen.1.listed serviceName).map seen.1.idOf).Nodup ∧
        ∀ ref ∈ seen.1.listed serviceName, seen.1.heap[ref]?.map ServiceInstance.name = some serviceName) ∧
      ∀ id serviceName, OnlyUnder id serviceName seen.2 →
        ((seen.1.getInstances serviceName).filter fun ref => seen.1.HasID id ref) =
          ((standing (latest Event.id id seen.2)).map Prod.fst).toList ∧
        ∀ entry ∈ standing (latest Event.id id seen.2), seen.1.heap[entry.1]? = some entry.2 := by
  intro seen passed
  have tracked : seen.1.Tracked seen.2 :=
    Runs.visited_invariant (Runs.record step events) (fun state => state.1.Tracked state.2) (fun _ _ => True)
      (fun state call tracked _ => tracked_step state.1 state.2 call tracked) ({}, []) calls tracked_new (Runs.meets_free _ _ calls) seen
      passed
  constructor
  · exact fun serviceName => ⟨tracked.unique serviceName, tracked.current.named serviceName⟩
  · intro id serviceName only
    exact agrees_instances seen.1 id serviceName _ tracked.unique (tracked.agrees id serviceName only)

def revived : InMemoryRegistry × List Event :=
  [.create ⟨"auth-1", "auth-service", .active⟩, .create ⟨"auth-2", "auth-service", .active⟩,
    .create ⟨"auth-1", "auth-service", .draining⟩, .register 0 0, .register 1 0, .deregister "auth-1" .listed,
    .deregister "auth-2" .listed, .register 2 0, .cleanup .listed].foldl (Runs.record step events) ({}, [])

theorem revived_events : revived.2 =
    [.registered 0 ⟨"auth-1", "auth-service", .active⟩, .registered 1 ⟨"auth-2", "auth-service", .active⟩, .deregistered "auth-1",
      .deregistered "auth-2", .registered 2 ⟨"auth-1", "auth-service", .draining⟩] := by
  decide +kernel

theorem revived_current :
    ((revived.1.getInstances "auth-service").filter fun ref => revived.1.HasID "auth-1" ref) = [2] ∧
      ((revived.1.getInstances "auth-service").filter fun ref => revived.1.HasID "auth-2" ref) = [] := by
  have only : ∀ id, OnlyUnder id "auth-service" revived.2 := by
    intro id ref value member _
    rw [revived_events] at member
    simp only [List.mem_cons, Event.registered.injEq, reduceCtorEq, false_or, List.not_mem_nil, or_false] at member
    rcases member with ⟨-, rfl⟩ | ⟨-, rfl⟩ | ⟨-, rfl⟩ <;> rfl
  have current := (registry_entries_unique_and_current _ revived (Runs.last_visited _ _ _)).2
  constructor
  · have first := (current "auth-1" "auth-service" (only "auth-1")).1
    rw [revived_events] at first
    exact first
  · have second := (current "auth-2" "auth-service" (only "auth-2")).1
    rw [revived_events] at second
    exact second

end History

end InMemoryRegistry

end MmoServer.Rpc
