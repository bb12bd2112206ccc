import Mathlib.Data.Nat.Count
import Mathlib.Data.Nat.Periodic
import MmoServer.Lib.Chunks

set_option autoImplicit false

-- Choosing a position of a list by weight. A position of weight w has w of the tickets,
-- in a row and after those of the positions before it.
namespace Weights

open Chunks

section Tickets

def owner (ticket : Nat) : List Nat → Option Nat
  | [] => none
  | weight :: rest => if ticket < weight then some 0 else (owner (ticket - weight) rest).map (· + 1)

theorem owner_add (weight ticket : Nat) (rest : List Nat) :
    owner (weight + ticket) (weight :: rest) = (owner ticket rest).map (· + 1) := by
  rw [owner, if_neg (by omega), Nat.add_sub_cancel_left]

theorem owner_found (weights : List Nat) (ticket : Nat) (sold : ticket < weights.sum) : ∃ position, owner ticket weights = some position := by
  induction weights generalizing ticket with
  | nil => simp at sold
  | cons weight rest ih =>
    rw [owner]
    split
    · exact ⟨0, rfl⟩
    · rw [List.sum_cons] at sold
      obtain ⟨position, found⟩ := ih (ticket - weight) (by omega)
      exact ⟨position + 1, by rw [found]; rfl⟩

theorem owner_weight (weights : List Nat) (ticket position : Nat) (found : owner ticket weights = some position) :
    ∃ weight, weights[position]? = some weight ∧ 0 < weight := by
  induction weights generalizing ticket position with
  | nil => cases found
  | cons weight rest ih =>
    rw [owner] at found
    split at found
    · cases found
      exact ⟨weight, rfl, by omega⟩
    · obtain ⟨later, foundLater, rfl⟩ := Option.map_eq_some_iff.mp found
      exact ih _ later foundLater

theorem count_owner (weights : List Nat) (position weight : Nat) (here : weights[position]? = some weight) :
    Nat.count (fun ticket => owner ticket weights = some position) weights.sum = weight := by
  induction weights generalizing position with
  | nil => cases here
  | cons first rest ih =>
    rw [List.sum_cons, Nat.count_add]
    simp only [owner_add]
    cases position with
    | zero =>
      obtain rfl : first = weight := Option.some_inj.mp here
      have own : Nat.count (fun ticket => owner ticket (first :: rest) = some 0) first = first :=
        Nat.count_of_forall fun ticket below => by rw [owner, if_pos below]
      have others : Nat.count (fun ticket => (owner ticket rest).map (· + 1) = some 0) rest.sum = 0 :=
        Nat.count_of_forall_not fun ticket _ => by simp
      rw [own, others]
      rfl
    | succ position =>
      have none : Nat.count (fun ticket => owner ticket (first :: rest) = some (position + 1)) first = 0 :=
        Nat.count_of_forall_not fun ticket below => by rw [owner, if_pos below]; simp
      have later := ih position here
      rw [none, Nat.zero_add]
      simpa using later

theorem count_window (weights : List Nat) (start position weight : Nat) (here : weights[position]? = some weight) :
    (List.range' start weights.sum).countP (fun ticket => owner (ticket % weights.sum) weights = some position) = weight := by
  have periodic : Function.Periodic (fun ticket => owner (ticket % weights.sum) weights = some position) weights.sum := by
    intro ticket
    simp only [Nat.add_mod_right]
  have window := Nat.filter_multiset_Ico_card_eq_of_periodic start weights.sum _ periodic
  have base : Nat.count (fun ticket => owner (ticket % weights.sum) weights = some position) weights.sum = weight := by
    rw [← count_owner weights position weight here, Nat.count, Nat.count]
    apply List.countP_congr
    intro ticket member
    rw [Nat.mod_eq_of_lt (List.mem_range.mp member)]
  have listed : Multiset.Ico start (start + weights.sum) = ↑(List.range' start weights.sum) := by
    rw [Multiset.Ico, Nat.Ico_eq_range', Nat.add_sub_cancel_left]
  rw [base, listed, ← Multiset.countP_eq_card_filter, Multiset.coe_countP] at window
  exact window

end Tickets

section Walk

-- The loop over running totals, in the arithmetic of a 64-bit int: the first position
-- where the total is above the target.
def walk (target total : Int) : List Int → Option Nat
  | [] => none
  | weight :: rest =>
    if target < wrap (total + weight) then some 0 else (walk target (wrap (total + weight)) rest).map (· + 1)

def totalFrom (total : Int) (weights : List Int) : Int := weights.foldl (fun total weight => wrap (total + weight)) total

def InRange (total : Int) : List Int → Prop
  | [] => True
  | weight :: rest => -2 ^ 63 ≤ total + weight ∧ total + weight < 2 ^ 63 ∧ InRange (total + weight) rest

variable (weights : List Int)

theorem in_range_nonneg (total : Int) (nonneg : ∀ weight ∈ weights, 0 ≤ weight) (start : 0 ≤ total)
    (fits : total + weights.sum < 2 ^ 63) : InRange total weights := by
  induction weights generalizing total with
  | nil => trivial
  | cons weight rest ih =>
    obtain ⟨here, later⟩ := List.forall_mem_cons.mp nonneg
    have positive := List.sum_nonneg later
    rw [List.sum_cons] at fits
    exact ⟨by omega, by omega, ih (total + weight) later (by omega) (by omega)⟩

theorem total_from_sum (total : Int) (inRange : InRange total weights) : totalFrom total weights = total + weights.sum := by
  induction weights generalizing total with
  | nil => simp [totalFrom]
  | cons weight rest ih =>
    obtain ⟨low, high, later⟩ := inRange
    rw [totalFrom, List.foldl_cons, wrap_fits _ low high, List.sum_cons, ← Int.add_assoc]
    exact ih (total + weight) later

theorem to_nat_sum (nonneg : ∀ weight ∈ weights, 0 ≤ weight) : ((weights.map Int.toNat).sum : Int) = weights.sum := by
  induction weights with
  | nil => rfl
  | cons weight rest ih =>
    obtain ⟨here, later⟩ := List.forall_mem_cons.mp nonneg
    rw [List.map_cons, List.sum_cons, List.sum_cons, Nat.cast_add, ih later, Int.toNat_of_nonneg here]

theorem walk_within (target total : Int) (position : Nat) (found : walk target total weights = some position) :
    position < weights.length := by
  induction weights generalizing total position with
  | nil => cases found
  | cons weight rest ih =>
    rw [walk] at found
    split at found
    · cases found
      simp
    · obtain ⟨later, foundLater, rfl⟩ := Option.map_eq_some_iff.mp found
      exact Nat.succ_lt_succ (ih _ later foundLater)

theorem walk_owner (target total : Int) (nonneg : ∀ weight ∈ weights, 0 ≤ weight) (inRange : InRange total weights)
    (reached : total ≤ target) : walk target total weights = owner (target - total).toNat (weights.map Int.toNat) := by
  induction weights generalizing total with
  | nil => rfl
  | cons weight rest ih =>
    obtain ⟨here, rest_⟩ := List.forall_mem_cons.mp nonneg
    obtain ⟨low, high, later⟩ := inRange
    rw [walk, wrap_fits _ low high, List.map_cons, owner]
    by_cases own : target < total + weight
    · rw [if_pos own, if_pos (by omega)]
    · have left : (target - (total + weight)).toNat = (target - total).toNat - weight.toNat := by omega
      rw [if_neg own, if_neg (by omega), ih (total + weight) rest_ later (by omega), left]

structure Shares (weights : List Int) (total : Nat) : Prop where
  nonneg : ∀ weight ∈ weights, 0 ≤ weight
  sums : weights.sum = total
  fits : total < 2 ^ 63

namespace Shares

variable {weights : List Int} {total : Nat}

section

variable (shares : Shares weights total)

include shares

theorem inRange : InRange 0 weights := by
  have fits := shares.fits
  have sums := shares.sums
  exact in_range_nonneg weights 0 shares.nonneg (le_refl 0) (by omega)

theorem total_eq : totalFrom 0 weights = total := by
  rw [total_from_sum weights 0 shares.inRange, Int.zero_add, shares.sums]

theorem tickets_sum : (weights.map Int.toNat).sum = total := by
  have exact_ := to_nat_sum weights shares.nonneg
  rw [shares.sums] at exact_
  exact_mod_cast exact_

theorem walk_ticket (ticket : Nat) (sold : ticket < total) :
    ∃ position, walk ticket 0 weights = some position ∧ owner ticket (weights.map Int.toNat) = some position ∧
      position < weights.length := by
  obtain ⟨position, owned⟩ := owner_found (weights.map Int.toNat) ticket (by rw [shares.tickets_sum]; exact sold)
  have walked := walk_owner weights ticket 0 shares.nonneg shares.inRange (by omega)
  rw [Int.sub_zero, Int.toNat_natCast, owned] at walked
  exact ⟨position, walked, owned, walk_within weights _ _ position walked⟩

end

theorem ticket_at (position : Nat) (weight : Int) (here : weights[position]? = some weight) :
    (weights.map Int.toNat)[position]? = some weight.toNat := by
  rw [List.getElem?_map, here]
  rfl

theorem owned_round (shares : Shares weights total) (position : Nat) (weight : Int) (here : weights[position]? = some weight) :
    (((List.range total).countP fun ticket => owner ticket (weights.map Int.toNat) = some position) : Int) = weight := by
  have counted := count_owner (weights.map Int.toNat) position weight.toNat (ticket_at position weight here)
  rw [shares.tickets_sum, Nat.count] at counted
  rw [counted]
  exact Int.toNat_of_nonneg (shares.nonneg weight (List.mem_of_getElem? here))

theorem owned_window (shares : Shares weights total) (start position : Nat) (weight : Int) (here : weights[position]? = some weight) :
    (((List.range' start total).countP fun ticket => owner (ticket % total) (weights.map Int.toNat) = some position) : Int) =
      weight := by
  have counted := count_window (weights.map Int.toNat) start position weight.toNat (ticket_at position weight here)
  rw [shares.tickets_sum] at counted
  rw [counted]
  exact Int.toNat_of_nonneg (shares.nonneg weight (List.mem_of_getElem? here))

theorem owned_positive (ticket position : Nat) (weight : Int) (owned : owner ticket (weights.map Int.toNat) = some position)
    (here : weights[position]? = some weight) : 0 < weight := by
  obtain ⟨share, its, positive⟩ := owner_weight (weights.map Int.toNat) ticket position owned
  rw [ticket_at position weight here, Option.some_inj] at its
  omega

end Shares

end Walk

end Weights
