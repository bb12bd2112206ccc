import MmoServer.Lib.Weights

set_option autoImplicit false

namespace MmoServer.Protocol

open Chunks Weights

inductive Status where
  | up
  | down
  | maintenance
  | other (name : String)
deriving DecidableEq, Repr

structure ServiceInstance where
  id : List UInt8
  serviceName : List UInt8
  weight : Int
  status : Status
deriving DecidableEq, Repr

inductive SelectError where
  | noAvailableInstance
  | outOfRange
deriving DecidableEq, Repr

inductive Origin where
  | rotation
  | weighted
  | fallback
deriving DecidableEq, Repr

structure Selected where
  index : Nat
  instance_ : ServiceInstance
  origin : Origin
deriving DecidableEq, Repr

def serviceOf (instances : List ServiceInstance) : Option (List UInt8) := instances.head?.map ServiceInstance.serviceName

def availableInstances (instances : List ServiceInstance) : List ServiceInstance :=
  instances.filter fun instance_ => instance_.status = .up

section Choices

variable (count : Int) (available : List ServiceInstance)

def pointTo (index : Int) (origin : Origin) : Except SelectError Selected :=
  if index < 0 then .error .outOfRange
  else
    match available[index.toNat]? with
    | some instance_ => .ok ⟨index.toNat, instance_, origin⟩
    | none => .error .outOfRange

def rotate : Except SelectError Selected := pointTo available (count.tmod available.length) .rotation

def chooseByWeight : Except SelectError Selected :=
  let totalWeight := totalFrom 0 (available.map ServiceInstance.weight)
  if totalWeight = 0 then rotate count available
  else
    match walk (count.tmod totalWeight) 0 (available.map ServiceInstance.weight) with
    | some i => pointTo available i .weighted
    | none => pointTo available 0 .fallback

end Choices

theorem point_to_found (available : List ServiceInstance) (index : Nat) (within : index < available.length) (origin : Origin) :
    ∃ instance_, available[index]? = some instance_ ∧ pointTo available index origin = .ok ⟨index, instance_, origin⟩ := by
  refine ⟨available[index], List.getElem?_eq_getElem within, ?_⟩
  rw [pointTo, if_neg (by omega), Int.toNat_natCast, List.getElem?_eq_getElem within]

structure Balancer (choose : Int → List ServiceInstance → Except SelectError Selected) where
  counter : GoMap (List UInt8) Int := ∅

abbrev RoundRobinLoadBalancer : Type := Balancer rotate

abbrev WeightedLoadBalancer : Type := Balancer chooseByWeight

namespace Balancer

variable {choose : Int → List ServiceInstance → Except SelectError Selected}

section Calls

def count (service : List UInt8) (lb : Balancer choose) : Int := (lb.counter.lookup service).getD 0

def advance (service : List UInt8) (lb : Balancer choose) : Balancer choose :=
  { counter := lb.counter.insert service (wrap (lb.count service + 1)) }

-- Selections are made under the lock, so calls come one after the other. The counter
-- belongs to the service of the first instance, whatever its status.
def selectInstance (instances : List ServiceInstance) (lb : Balancer choose) : Except SelectError Selected × Balancer choose :=
  match instances with
  | [] => (.error .noAvailableInstance, lb)
  | head :: _ =>
    let available := availableInstances instances
    if available = [] then (.error .noAvailableInstance, lb)
    else (choose (lb.count head.serviceName) available, lb.advance head.serviceName)

variable (lb : Balancer choose) (instances : List ServiceInstance)

theorem count_advance (service other : List UInt8) :
    (lb.advance service).count other = if other = service then wrap (lb.count service + 1) else lb.count other := by
  rw [count, advance, AList.lookup_insert_eq]
  split <;> rfl

theorem select_none (none : availableInstances instances = []) : lb.selectInstance instances = (.error .noAvailableInstance, lb) := by
  cases instances with
  | nil => rfl
  | cons head rest => simp only [selectInstance, none, if_true]

theorem select_available (service : List UInt8) (named : serviceOf instances = some service)
    (some_ : availableInstances instances ≠ []) :
    lb.selectInstance instances = (choose (lb.count service) (availableInstances instances), lb.advance service) := by
  cases instances with
  | nil => cases named
  | cons head rest =>
    obtain rfl : head.serviceName = service := Option.some_inj.mp named
    simp only [selectInstance, if_neg some_]

theorem service_of_available (some_ : availableInstances instances ≠ []) : ∃ service, serviceOf instances = some service := by
  cases instances with
  | nil => exact absurd rfl some_
  | cons head rest => exact ⟨head.serviceName, rfl⟩

end Calls

section Runs

def after : List (List ServiceInstance) → Balancer choose → Balancer choose
  | [], lb => lb
  | instances :: rest, lb => after rest (lb.selectInstance instances).2

def successes (service : List UInt8) : List (List ServiceInstance) → Balancer choose → List Selected
  | [], _ => []
  | instances :: rest, lb =>
    (if serviceOf instances = some service then (lb.selectInstance instances).1.toOption.toList else []) ++
      successes service rest (lb.selectInstance instances).2

def Served (service : List UInt8) (instances : List ServiceInstance) : Prop :=
  serviceOf instances = some service ∧ availableInstances instances ≠ []

instance decidableServed (service : List UInt8) (instances : List ServiceInstance) : Decidable (Served service instances) :=
  inferInstanceAs (Decidable (_ ∧ _))

variable (service : List UInt8)

variable (calls : List (List ServiceInstance)) (lb : Balancer choose)

theorem count_unserved (instances : List ServiceInstance) (unserved : ¬ Served service instances) :
    (lb.selectInstance instances).2.count service = lb.count service := by
  by_cases none : availableInstances instances = []
  · rw [select_none lb instances none]
  · obtain ⟨other, named⟩ := service_of_available instances none
    rw [select_available lb instances other named none, count_advance, if_neg]
    rintro rfl
    exact unserved ⟨named, none⟩

theorem successes_unserved (instances : List ServiceInstance) (rest : List (List ServiceInstance))
    (unserved : ¬ Served service instances) :
    successes service (instances :: rest) lb = successes service rest (lb.selectInstance instances).2 := by
  rw [successes]
  by_cases none : availableInstances instances = []
  · rw [select_none lb instances none]
    simp [Except.toOption]
  · rw [if_neg fun named => unserved ⟨named, none⟩, List.nil_append]

theorem successes_idle (idle : ∀ instances ∈ calls, ¬ Served service instances) (lb : Balancer choose) :
    successes service calls lb = [] := by
  induction calls generalizing lb with
  | nil => rfl
  | cons instances rest ih =>
    obtain ⟨here, later⟩ := List.forall_mem_cons.mp idle
    rw [successes_unserved service lb instances rest here, ih later]

theorem successes_counted (available : List ServiceInstance) (chosen : Nat → Selected)
    (chooses : ∀ count : Nat, choose count available = .ok (chosen count)) (calls : List (List ServiceInstance))
    (same : ∀ instances ∈ calls, Served service instances → availableInstances instances = available) (lb : Balancer choose)
    (start : Nat) (counted : lb.count service = start) (room : start + calls.countP (Served service ·) < 2 ^ 63) :
    successes service calls lb = (List.range' start (calls.countP (Served service ·))).map chosen := by
  induction calls generalizing lb start with
  | nil => rfl
  | cons instances rest ih =>
    have later := fun instances member => same instances (List.mem_cons_of_mem _ member)
    by_cases served : Served service instances
    · rw [List.countP_cons_of_pos (by simpa using served)] at room ⊢
      have selected := select_available lb instances service served.1 served.2
      rw [same instances (by simp) served, counted, chooses] at selected
      have next : (lb.advance service).count service = (start + 1 : Nat) := by
        rw [count_advance, if_pos rfl, counted, wrap_fits _ (by omega) (by omega)]
        rfl
      rw [successes, if_pos served.1, selected, ih later (lb.advance service) (start + 1) next (by omega)]
      rw [List.range'_succ, List.map_cons]
      rfl
    · rw [List.countP_cons_of_neg (by simpa using served)] at room ⊢
      rw [successes_unserved service lb instances rest served]
      exact ih later _ start ((count_unserved service lb instances served).trans counted) room

theorem count_after (start : Nat) (counted : lb.count service = start) (room : start + calls.countP (Served service ·) < 2 ^ 63) :
    (after calls lb).count service = (start + calls.countP (Served service ·) : Nat) := by
  induction calls generalizing lb start with
  | nil => exact counted
  | cons instances rest ih =>
    rw [after]
    by_cases served : Served service instances
    · rw [List.countP_cons_of_pos (by simpa using served)] at room ⊢
      have next : (lb.selectInstance instances).2.count service = (start + 1 : Nat) := by
        rw [select_available lb instances service served.1 served.2, count_advance, if_pos rfl, counted,
          wrap_fits _ (by omega) (by omega)]
        rfl
      rw [ih _ (start + 1) next (by omega)]
      congr 1
      omega
    · rw [List.countP_cons_of_neg (by simpa using served)] at room ⊢
      exact ih _ start ((count_unserved service lb instances served).trans counted) room

end Runs

end Balancer

end MmoServer.Protocol
