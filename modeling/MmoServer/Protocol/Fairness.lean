import MmoServer.Protocol.Balancers

set_option autoImplicit false

namespace MmoServer.Protocol

open Weights Balancer

namespace RoundRobinLoadBalancer

theorem rotate_counted (available : List ServiceInstance) (some_ : available ≠ []) (count : Nat) :
    ∃ selected, rotate count available = .ok selected ∧
      available[count % available.length]? = some selected.instance_ := by
  have within : count % available.length < available.length := Nat.mod_lt _ (List.length_pos_iff.mpr some_)
  obtain ⟨instance_, here, points⟩ := point_to_found available _ within .rotation
  refine ⟨⟨count % available.length, instance_, .rotation⟩, ?_, here⟩
  rw [rotate, ← Int.ofNat_tmod, points]

theorem rotation_fair (up : List UInt8 → List ServiceInstance) (calls : List (List ServiceInstance)) (few : calls.length < 2 ^ 63)
    (given : ∀ instances ∈ calls, ∀ service ∈ serviceOf instances,
      availableInstances instances = up service ∨ availableInstances instances = []) :
    (∀ service k selected, (successes service calls ({} : RoundRobinLoadBalancer))[k]? = some selected →
      (up service)[k % (up service).length]? = some selected.instance_) ∧
    ∀ before instances rest, calls = before ++ instances :: rest →
      let lb : RoundRobinLoadBalancer := after before {}
      (availableInstances instances = [] ∧ lb.selectInstance instances = (.error .noAvailableInstance, lb)) ∨
        ∃ selected, (lb.selectInstance instances).1 = .ok selected := by
  refine ⟨?_, ?_⟩
  · intro service k selected here
    by_cases none : up service = []
    · rw [successes_idle service calls ?_] at here
      · cases here
      · intro instances member served
        rcases given instances member service served.1 with same | same
        · exact served.2 (same.trans none)
        · exact served.2 same
    · choose chosen rotates points using rotate_counted (up service) none
      have counted := successes_counted service (up service) chosen rotates calls
        (fun instances member served => (given instances member service served.1).resolve_right served.2) {} 0 rfl
        (by have most := List.countP_le_length (p := (Balancer.Served service ·)) (l := calls); omega)
      rw [counted, List.getElem?_map] at here
      obtain ⟨count, found, rfl⟩ := Option.map_eq_some_iff.mp here
      have within : k < calls.countP (Balancer.Served service ·) := by
        have bound := (List.getElem?_eq_some_iff.mp found).1
        rwa [List.length_range'] at bound
      rw [List.getElem?_range' within, Nat.zero_add, Nat.one_mul, Option.some_inj] at found
      rw [← found]
      exact points k
  · intro before instances rest split lb
    by_cases none : availableInstances instances = []
    · exact .inl ⟨none, select_none lb instances none⟩
    · obtain ⟨service, named⟩ := service_of_available instances none
      have room : 0 + before.countP (Balancer.Served service ·) < 2 ^ 63 := by
        have most := List.countP_le_length (p := (Balancer.Served service ·)) (l := before)
        have length := congrArg List.length split
        rw [List.length_append] at length
        omega
      have counted := count_after service before ({} : RoundRobinLoadBalancer) 0 rfl room
      obtain ⟨selected, rotates, -⟩ := rotate_counted (availableInstances instances) none (0 + before.countP (Balancer.Served service ·))
      refine .inr ⟨selected, ?_⟩
      rw [select_available lb instances service named none, counted, rotates]

def chatUp : List ServiceInstance := [⟨[1], [10], 0, .up⟩, ⟨[2], [10], 0, .up⟩]

def gameUp : List ServiceInstance := [⟨[3], [20], 0, .up⟩]

def rotationCalls : List (List ServiceInstance) :=
  [chatUp, gameUp, ⟨[4], [10], 0, .down⟩ :: chatUp, [⟨[1], [10], 0, .down⟩], [], chatUp]

theorem chat_rotation :
    ((successes [10] rotationCalls ({} : RoundRobinLoadBalancer))[2]?.map fun selected => selected.instance_.id) = some [1] ∧
      ∀ selected, (successes [10] rotationCalls ({} : RoundRobinLoadBalancer))[2]? = some selected →
        chatUp[2 % 2]? = some selected.instance_ := by
  refine ⟨by decide, fun selected here => ?_⟩
  exact (rotation_fair (fun service => if service = [10] then chatUp else gameUp) rotationCalls (by decide) (by decide)).1
    [10] 2 selected here

end RoundRobinLoadBalancer

namespace WeightedLoadBalancer

theorem weighted_counted (available : List ServiceInstance) (total : Nat)
    (shares : Shares (available.map ServiceInstance.weight) total) (positive : 0 < total) (count : Nat) :
    ∃ selected, chooseByWeight count available = .ok selected ∧ selected.origin = .weighted ∧
      available[selected.index]? = some selected.instance_ ∧
      owner (count % total) ((available.map ServiceInstance.weight).map Int.toNat) = some selected.index := by
  obtain ⟨index, walked, owned, within⟩ := shares.walk_ticket (count % total) (Nat.mod_lt _ positive)
  rw [List.length_map] at within
  obtain ⟨instance_, here, points⟩ := point_to_found available index within .weighted
  refine ⟨⟨index, instance_, .weighted⟩, ?_, rfl, here, owned⟩
  rw [chooseByWeight, shares.total_eq, ← Int.ofNat_tmod]
  simp only [walked, points]
  rw [if_neg (by omega)]

theorem window_served (instances : List ServiceInstance) (service : List UInt8) (named : serviceOf instances = some service)
    (some_ : availableInstances instances ≠ []) (calls : List (List ServiceInstance))
    (only : ∀ call ∈ calls, call = instances ∨ serviceOf call ≠ some service) :
    ∀ call ∈ calls, Balancer.Served service call ↔ call = instances := by
  intro call member
  constructor
  · intro served
    exact (only call member).resolve_right fun other => other served.1
  · rintro rfl
    exact ⟨named, some_⟩

def CountsTo (lb : WeightedLoadBalancer) (service : List UInt8) (calls : Nat) : Prop :=
  0 ≤ lb.count service ∧ lb.count service + calls < 2 ^ 63

theorem weighted_window (lb : WeightedLoadBalancer) (instances : List ServiceInstance) (service : List UInt8)
    (named : serviceOf instances = some service) (nonneg : ∀ instance_ ∈ availableInstances instances, 0 ≤ instance_.weight)
    (total : Nat) (sums : ((availableInstances instances).map ServiceInstance.weight).sum = total) (positive : 0 < total)
    (calls : List (List ServiceInstance)) (only : ∀ call ∈ calls, call = instances ∨ serviceOf call ≠ some service)
    (window : calls.count instances = total) (counts : CountsTo lb service total) :
    (successes service calls lb).length = total ∧
    (∀ i instance_, (availableInstances instances)[i]? = some instance_ →
      (((successes service calls lb).countP fun selected => selected.index = i) : Int) = instance_.weight) ∧
    ∀ selected ∈ successes service calls lb, selected.origin = .weighted ∧
      (availableInstances instances)[selected.index]? = some selected.instance_ ∧ selected.instance_.status = .up ∧
      selected.instance_.weight ≠ 0 := by
  obtain ⟨notNegative, room⟩ := counts
  have shares : Shares ((availableInstances instances).map ServiceInstance.weight) total :=
    ⟨List.forall_mem_map.mpr nonneg, sums, by omega⟩
  choose chosen chooses origin points owned using weighted_counted (availableInstances instances) total shares positive
  have weightAt (i : Nat) (instance_ : ServiceInstance) (here : (availableInstances instances)[i]? = some instance_) :
      ((availableInstances instances).map ServiceInstance.weight)[i]? = some instance_.weight := by
    rw [List.getElem?_map, here]
    rfl
  have some_ : availableInstances instances ≠ [] := by
    intro none
    rw [none, List.map_nil, List.sum_nil] at sums
    omega
  have concerns := window_served instances service named some_ calls only
  have served : calls.countP (Balancer.Served service ·) = total := by
    rw [← window, List.count]
    apply List.countP_congr
    intro call member
    simp [concerns call member]
  have selections := successes_counted service (availableInstances instances) chosen chooses calls
    (fun call member concerned => by rw [(concerns call member).mp concerned]) lb (lb.count service).toNat (by omega) (by omega)
  rw [selections, served]
  refine ⟨by simp, ?_, ?_⟩
  · intro i instance_ here
    have same : (List.range' (lb.count service).toNat total).countP (fun t => (chosen t).index = i) =
        (List.range' (lb.count service).toNat total).countP (fun t =>
          owner (t % total) (((availableInstances instances).map ServiceInstance.weight).map Int.toNat) = some i) := by
      apply List.countP_congr
      intro t _
      simp only [owned t, Option.some_inj]
    rw [List.countP_map]
    exact (congrArg Nat.cast same).trans (shares.owned_window (lb.count service).toNat i _ (weightAt i instance_ here))
  · intro selected member
    obtain ⟨t, -, rfl⟩ := List.mem_map.mp member
    have listed := List.mem_of_getElem? (points t)
    have positive := Shares.owned_positive _ _ _ (owned t) (weightAt _ _ (points t))
    exact ⟨origin t, points t, by simpa using (List.mem_filter.mp listed).2, by omega⟩

def weightedList : List ServiceInstance := [⟨[1], [10], 2, .up⟩, ⟨[2], [10], 5, .down⟩, ⟨[3], [10], 1, .up⟩]

def weightedCalls : List (List ServiceInstance) :=
  [weightedList, RoundRobinLoadBalancer.gameUp, weightedList, [], weightedList]

def usedBalancer : WeightedLoadBalancer := ⟨(∅ : GoMap _ _).insert [10] 1⟩

theorem weighted_window_used :
    (successes [10] weightedCalls usedBalancer).map Selected.index = [0, 1, 0] ∧
      (((successes [10] weightedCalls usedBalancer).countP fun selected => selected.index = 0) : Int) = 2 := by
  refine ⟨by decide, ?_⟩
  exact (weighted_window usedBalancer weightedList [10] rfl (by decide) 3 (by decide) (by decide) weightedCalls (by decide) (by decide)
    (by unfold CountsTo; decide)).2.1 0 ⟨[1], [10], 2, .up⟩ (by decide)

end WeightedLoadBalancer

end MmoServer.Protocol
