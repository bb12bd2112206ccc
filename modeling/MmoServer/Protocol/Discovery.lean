import MmoServer.Lib.Keyed
import MmoServer.Lib.Runs
import MmoServer.Protocol.Router

set_option autoImplicit false

namespace MmoServer.Protocol

open History
open Json

structure InMemoryServiceDiscovery where
  instances : GoMap (List UInt8) (List ServiceInstance) := ∅

namespace InMemoryServiceDiscovery

inductive Event where
  | registered (instance_ : ServiceInstance)
  | deregistered (instanceID : List UInt8)
deriving DecidableEq, Repr

def Event.id : Event → List UInt8
  | registered instance_ => instance_.id
  | deregistered instanceID => instanceID

inductive Call where
  | register (instance_ : ServiceInstance)
  | deregister (instanceID : List UInt8) (order : Shuffle (List UInt8 × List ServiceInstance))

variable (sd : InMemoryServiceDiscovery)

section Calls

def listed (serviceName : List UInt8) : List ServiceInstance := (sd.instances.lookup serviceName).getD []

def registerServiceInstance (instance_ : ServiceInstance) : InMemoryServiceDiscovery :=
  { instances := sd.instances.insert instance_.serviceName
      (Keyed.put ServiceInstance.id instance_ (sd.listed instance_.serviceName)) }

def locate (instanceID : List UInt8) (order : Shuffle (List UInt8 × List ServiceInstance)) :
    Option (List UInt8 × List ServiceInstance × Nat) :=
  (order.apply sd.instances.pairs).findSome? fun (serviceName, instances) =>
    (instances.findIdx? fun instance_ => instance_.id = instanceID).map fun i => (serviceName, instances, i)

def deregisterServiceInstance (instanceID : List UInt8) (order : Shuffle (List UInt8 × List ServiceInstance)) :
    Except (List UInt8) Unit × InMemoryServiceDiscovery :=
  match sd.locate instanceID order with
  | none => (.error (utf8 "instance not found: " ++ instanceID), sd)
  | some (serviceName, instances, i) =>
    (.ok (), { instances := sd.instances.insert serviceName (instances.take i ++ instances.drop (i + 1)) })

def step : Call → InMemoryServiceDiscovery
  | .register instance_ => sd.registerServiceInstance instance_
  | .deregister instanceID order => (sd.deregisterServiceInstance instanceID order).2

def events : Call → List Event
  | .register instance_ => [.registered instance_]
  | .deregister instanceID order =>
    match (sd.deregisterServiceInstance instanceID order).1 with
    | .ok () => [.deregistered instanceID]
    | .error _ => []

end Calls

section Lists

def Lists (serviceName instanceID : List UInt8) : Prop := ∃ instance_ ∈ sd.listed serviceName, instance_.id = instanceID

instance decidableLists (serviceName instanceID : List UInt8) : Decidable (sd.Lists serviceName instanceID) :=
  inferInstanceAs (Decidable (∃ instance_ ∈ sd.listed serviceName, instance_.id = instanceID))

def Distinct : Prop := ∀ serviceName, ((sd.listed serviceName).map ServiceInstance.id).Nodup

theorem listed_insert (serviceName other : List UInt8) (instances : List ServiceInstance) :
    ({ instances := sd.instances.insert serviceName instances } : InMemoryServiceDiscovery).listed other =
      if other = serviceName then instances else sd.listed other := by
  rw [listed, AList.lookup_insert_eq]
  split
  · rfl
  · rw [listed]

theorem register_lists (instance_ : ServiceInstance) (serviceName instanceID : List UInt8) (distinct : sd.Distinct)
    (other : instance_.id ≠ instanceID) :
    (sd.registerServiceInstance instance_).Lists serviceName instanceID ↔ sd.Lists serviceName instanceID := by
  rw [Lists, registerServiceInstance, listed_insert]
  split
  · rename_i own
    subst own
    simp only [Keyed.mem_put ServiceInstance.id instance_ _ _ (distinct instance_.serviceName)]
    constructor
    · rintro ⟨found, new | ⟨old, -⟩, same⟩
      · exact absurd (new ▸ same) other
      · exact ⟨found, old, same⟩
    · rintro ⟨found, old, same⟩
      exact ⟨found, .inr ⟨old, fun also => other (also.symm.trans same)⟩, same⟩
  · rfl

variable (instanceID serviceName : List UInt8)

theorem located (order : Shuffle (List UInt8 × List ServiceInstance)) (instances : List ServiceInstance) (i : Nat)
    (found : sd.locate instanceID order = some (serviceName, instances, i)) :
    sd.listed serviceName = instances ∧ (instances.findIdx? fun instance_ => instance_.id = instanceID) = some i := by
  obtain ⟨entry, member, matched⟩ := List.exists_of_findSome?_eq_some found
  obtain ⟨at_, position, same⟩ := Option.map_eq_some_iff.mp matched
  cases same
  have known := (AList.mem_pairs _ _ _).mp ((order.mem_apply _ _).mp member)
  exact ⟨by rw [listed, known]; rfl, position⟩

theorem not_located (order : Shuffle (List UInt8 × List ServiceInstance)) (found : sd.locate instanceID order = none) :
    ¬ sd.Lists serviceName instanceID := by
  rintro ⟨instance_, member, same⟩
  rw [listed] at member
  cases known : sd.instances.lookup serviceName with
  | none =>
    rw [known] at member
    cases member
  | some instances =>
    rw [known] at member
    have entry := (order.mem_apply _ _).mpr ((AList.mem_pairs _ _ _).mpr known)
    have missing := List.findSome?_eq_none_iff.mp found _ entry
    rw [Option.map_eq_none_iff, List.findIdx?_eq_none_iff] at missing
    exact of_decide_eq_false (missing instance_ member) same

theorem cut_lists (i : Nat) (distinct : sd.Distinct)
    (position : ((sd.listed serviceName).findIdx? fun instance_ => instance_.id = instanceID) = some i) (other sought : List UInt8) :
    let left := (sd.listed serviceName).take i ++ (sd.listed serviceName).drop (i + 1)
    ({ instances := sd.instances.insert serviceName left } : InMemoryServiceDiscovery).Lists other sought ↔
      sd.Lists other sought ∧ ¬ (other = serviceName ∧ sought = instanceID) := by
  intro left
  rw [Lists, listed_insert]
  split
  · rename_i own
    subst own
    rw [Lists]
    simp only [left, Keyed.mem_cut ServiceInstance.id instanceID i _ (distinct other) position, not_and]
    constructor
    · rintro ⟨instance_, ⟨member, different⟩, same⟩
      exact ⟨⟨instance_, member, same⟩, fun _ here => different (same.trans here)⟩
    · rintro ⟨⟨instance_, member, same⟩, elsewhere⟩
      exact ⟨instance_, ⟨member, fun here => elsewhere trivial (same.symm.trans here)⟩, same⟩
  · rename_i away
    exact ⟨fun lists => ⟨lists, fun here => away here.1⟩, And.left⟩

theorem distinct_step (call : Call) (distinct : sd.Distinct) : (sd.step call).Distinct := by
  intro other
  cases call with
  | register instance_ =>
    rw [step, registerServiceInstance, listed_insert]
    split
    · exact Keyed.put_nodup ServiceInstance.id instance_ _ (distinct instance_.serviceName)
    · exact distinct other
  | deregister instanceID order =>
    rw [step, deregisterServiceInstance]
    cases found : sd.locate instanceID order with
    | none => exact distinct other
    | some target =>
      obtain ⟨serviceName, instances, i⟩ := target
      obtain ⟨rfl, -⟩ := located sd instanceID serviceName order instances i found
      simp only [listed_insert]
      split
      · exact ((Keyed.cut_sublist i _).map ServiceInstance.id).nodup (distinct serviceName)
      · exact distinct other

end Lists

section Removal

def Removed (seen : InMemoryServiceDiscovery × List Event) : Prop :=
  ∀ instanceID, latest Event.id instanceID seen.2 = some (.deregistered instanceID) → ∀ serviceName,
    ¬ seen.1.Lists serviceName instanceID

def Alone (seen : InMemoryServiceDiscovery × List Event) : Call → Prop
  | .register _ => True
  | .deregister instanceID _ =>
    ∀ first second, seen.1.Lists first instanceID → seen.1.Lists second instanceID → first = second

theorem register_removed (past : List Event) (instance_ : ServiceInstance) (distinct : sd.Distinct) (removed : Removed (sd, past)) :
    Removed (Runs.record step events (sd, past) (.register instance_)) := by
  intro instanceID last serviceName
  simp only [Runs.record, events, latest_concat] at last
  split at last
  · cases last
  · rename_i other
    have frame := register_lists sd instance_ serviceName instanceID distinct other
    exact fun lists => removed instanceID last serviceName (frame.mp lists)

theorem deregister_removed_iff (past : List Event) (instanceID : List UInt8) (order : Shuffle (List UInt8 × List ServiceInstance))
    (distinct : sd.Distinct) (removed : Removed (sd, past)) :
    Removed (Runs.record step events (sd, past) (.deregister instanceID order)) ↔ Alone (sd, past) (.deregister instanceID order) := by
  cases found : sd.locate instanceID order with
  | none =>
    have same : Runs.record step events (sd, past) (.deregister instanceID order) = (sd, past) := by
      simp [Runs.record, step, events, deregisterServiceInstance, found]
    rw [same]
    apply iff_of_true removed
    exact fun first _ lists _ => absurd lists (not_located sd instanceID first order found)
  | some target =>
    obtain ⟨serviceName, instances, i⟩ := target
    obtain ⟨rfl, position⟩ := located sd instanceID serviceName order instances i found
    have after : Runs.record step events (sd, past) (.deregister instanceID order) =
        ({ instances := sd.instances.insert serviceName ((sd.listed serviceName).take i ++ (sd.listed serviceName).drop (i + 1)) },
          past ++ [.deregistered instanceID]) := by
      simp [Runs.record, step, events, deregisterServiceInstance, found]
    have left := cut_lists sd instanceID serviceName i distinct position
    have here : sd.Lists serviceName instanceID := by
      obtain ⟨inside, matched, -⟩ := List.findIdx?_eq_some_iff_getElem.mp position
      exact ⟨_, List.getElem_mem inside, of_decide_eq_true matched⟩
    rw [after]
    constructor
    · intro gone first second one two
      have none_left := gone instanceID ((latest_concat _ _ _ _).trans (if_pos rfl))
      have only : ∀ other, sd.Lists other instanceID → other = serviceName := by
        intro other lists
        by_contra away
        exact none_left other ((left other instanceID).mpr ⟨lists, fun at_ => away at_.1⟩)
      rw [only first one, only second two]
    · intro alone sought last other lists
      obtain ⟨before, away⟩ := (left other sought).mp lists
      rw [latest_concat] at last
      split at last
      · rename_i same
        have same : instanceID = sought := same
        subst same
        exact away ⟨alone other serviceName before here, rfl⟩
      · exact removed sought last other before

-- The lists never repeat an ID. A deregistered instance is gone from all of them exactly
-- when no ID is deregistered while two services list it.
theorem discovery_distinct_and_removed_iff (calls : List Call) :
    (∀ seen ∈ Runs.visited (Runs.record step events) ({}, []) calls, seen.1.Distinct) ∧
    ((∀ seen ∈ Runs.visited (Runs.record step events) ({}, []) calls, Removed seen) ↔
      Runs.Meets (Runs.record step events) Alone ({}, []) calls) := by
  have initial : ({} : InMemoryServiceDiscovery).Distinct := fun _ => List.nodup_nil
  constructor
  · exact Runs.visited_invariant (Runs.record step events) (fun seen => seen.1.Distinct) (fun _ _ => True)
      (fun seen call distinct _ => distinct_step seen.1 call distinct) ({}, []) calls initial (Runs.meets_free _ _ calls)
  · apply Runs.visited_iff_meets _ (fun seen => seen.1.Distinct) Removed Alone
    · exact fun seen call distinct => distinct_step seen.1 call distinct
    · intro seen call distinct removed
      cases call with
      | register instance_ => exact iff_of_true (register_removed seen.1 seen.2 instance_ distinct removed) trivial
      | deregister instanceID order => exact deregister_removed_iff seen.1 seen.2 instanceID order distinct removed
    · exact initial
    · intro instanceID last
      cases last

def moved : List Call :=
  [.register ⟨utf8 "node-1", utf8 "chat", 1, .up⟩, .register ⟨utf8 "node-1", utf8 "game", 1, .up⟩,
    .deregister (utf8 "node-1") .listed]

theorem moved_still_listed :
    ∃ seen ∈ (Runs.visited (Runs.record step events) ({}, []) moved).getLast?,
      latest Event.id (utf8 "node-1") seen.2 = some (.deregistered (utf8 "node-1")) ∧ seen.1.Lists (utf8 "chat") (utf8 "node-1") := by
  decide +kernel

end Removal

end InMemoryServiceDiscovery

end MmoServer.Protocol
