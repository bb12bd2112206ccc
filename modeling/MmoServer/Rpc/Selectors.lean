import MmoServer.Lib.Weights
import MmoServer.Rpc.Registry

set_option autoImplicit false

namespace MmoServer.Rpc

open Chunks Weights

inductive SelectError where
  | failed (text : String)
  | panicked (text : String)
deriving DecidableEq, Repr

-- The instance that is returned, its place in the list, and whether it comes from the
-- line behind the loop.
structure Picked where
  position : Nat
  instance_ : InstanceRef
  fallback : Bool
deriving DecidableEq, Repr

section Selecting

variable (rand : Int → Int) (weight : InstanceRef → Int) (instances : List InstanceRef)

def pickAt (index : Int) (fallback : Bool) : Except SelectError Picked :=
  if index < 0 then .error (.panicked "index out of range")
  else
    match instances[index.toNat]? with
    | some instance_ => .ok ⟨index.toNat, instance_, fallback⟩
    | none => .error (.panicked "index out of range")

def intn (n : Int) : Except SelectError Int :=
  if n ≤ 0 then .error (.panicked "invalid argument to Intn") else .ok (rand n)

def noInstances : SelectError := .failed "no instances available"

def effectiveWeight (instance_ : InstanceRef) : Int := if weight instance_ ≤ 0 then 1 else weight instance_

def weightedSelect : Except SelectError Picked :=
  if instances = [] then .error noInstances
  else
    match intn rand (totalFrom 0 (instances.map (effectiveWeight weight))) with
    | .error err => .error err
    | .ok target =>
      match walk target 0 (instances.map (effectiveWeight weight)) with
      | some i => pickAt instances i false
      | none => pickAt instances 0 true

end Selecting

theorem pick_at_found (instances : List InstanceRef) (position : Nat) (instance_ : InstanceRef) (fallback : Bool)
    (here : instances[position]? = some instance_) : pickAt instances position fallback = .ok ⟨position, instance_, fallback⟩ := by
  rw [pickAt, if_neg (by omega), Int.toNat_natCast, here]

section Distribution

variable (weight : InstanceRef → Int) (instances : List InstanceRef)

theorem effective_positive : ∀ share ∈ instances.map (effectiveWeight weight), 1 ≤ share := by
  intro share member
  obtain ⟨instance_, -, rfl⟩ := List.mem_map.mp member
  rw [effectiveWeight]
  split <;> omega

theorem weighted_select_owner (rand : Int → Int) (some_ : instances ≠ []) (total : Nat)
    (shares : Shares (instances.map (effectiveWeight weight)) total) (draw : Nat) (drawn : rand total = draw) (below : draw < total) :
    ∃ position instance_, instances[position]? = some instance_ ∧
      owner draw ((instances.map (effectiveWeight weight)).map Int.toNat) = some position ∧
      weightedSelect rand weight instances = .ok ⟨position, instance_, false⟩ := by
  obtain ⟨position, walked, owned, within⟩ := shares.walk_ticket draw below
  rw [List.length_map] at within
  refine ⟨position, instances[position], List.getElem?_eq_getElem within, owned, ?_⟩
  rw [weightedSelect, if_neg some_, shares.total_eq, intn, if_neg (by omega), drawn]
  simp only [walked]
  exact pick_at_found instances position _ false (List.getElem?_eq_getElem within)

theorem weighted_distribution (some_ : instances ≠ []) (total : Nat) (sums : (instances.map (effectiveWeight weight)).sum = total)
    (fits : total < 2 ^ 63) :
    (∀ position instance_, instances[position]? = some instance_ →
      (((List.range total).countP fun draw : Nat =>
        (weightedSelect (fun _ => draw) weight instances).toOption.map Picked.position = some position) : Int) =
          effectiveWeight weight instance_) ∧
    ∀ rand : Int → Int, 0 ≤ rand total → rand total < total →
      ∃ picked, weightedSelect rand weight instances = .ok picked ∧ picked.fallback = false ∧
        instances[picked.position]? = some picked.instance_ := by
  have positive := effective_positive weight instances
  have shares : Shares (instances.map (effectiveWeight weight)) total :=
    ⟨fun share member => le_trans (by decide) (positive share member), sums, fits⟩
  refine ⟨?_, ?_⟩
  · intro position instance_ here
    have same : (List.range total).countP (fun draw : Nat =>
        (weightedSelect (fun _ => draw) weight instances).toOption.map Picked.position = some position) =
        (List.range total).countP fun draw => owner draw ((instances.map (effectiveWeight weight)).map Int.toNat) = some position := by
      apply List.countP_congr
      intro draw member
      obtain ⟨found, _, -, owned, selects⟩ :=
        weighted_select_owner weight instances (fun _ => draw) some_ total shares draw rfl (List.mem_range.mp member)
      rw [selects, owned]
      rfl
    rw [same]
    exact shares.owned_round position _ (by rw [List.getElem?_map, here]; rfl)
  · intro rand low high
    obtain ⟨position, instance_, here, -, selects⟩ :=
      weighted_select_owner weight instances rand some_ total shares (rand total).toNat (by omega) (by omega)
    exact ⟨_, selects, rfl, here⟩

def mixedWeights : InstanceRef → Int
  | 0 => 3
  | 1 => 0
  | _ => -2

theorem mixed_weights_drawn :
    (((List.range 5).countP fun draw : Nat =>
      (weightedSelect (fun _ => draw) mixedWeights [0, 1, 2]).toOption.map Picked.position = some 0) : Int) = 3 ∧
    ∃ picked, weightedSelect (fun n => n - 1) mixedWeights [0, 1, 2] = .ok picked ∧ picked.fallback = false ∧
      [0, 1, 2][picked.position]? = some picked.instance_ := by
  obtain ⟨counts, returns⟩ := weighted_distribution mixedWeights [0, 1, 2] (by decide) 5 (by decide) (by decide)
  exact ⟨counts 0 0 rfl, returns (fun n => n - 1) (by decide) (by decide)⟩

end Distribution

end MmoServer.Rpc
