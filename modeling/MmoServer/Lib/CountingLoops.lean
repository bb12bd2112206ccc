import MmoServer.Lib.Cells
import MmoServer.Lib.Chunks

set_option autoImplicit false

-- Loops of the form "for x := start; x <= stop; x++" over 64-bit integers.
namespace CountingLoops

open Chunks

def countTo : Nat → Int → Int → Option (List Int)
  | 0, _, _ => none
  | turns + 1, x, stop => if x ≤ stop then (countTo turns (wrap (x + 1)) stop).map (x :: ·) else some []

theorem range_cons (low high : Int) (some_ : low < high) : Int.range low high = low :: Int.range (low + 1) high := by
  have length : (high - low).toNat = (high - (low + 1)).toNat + 1 := by omega
  rw [Int.range, length, List.range_succ_eq_map, List.map_cons, List.map_map, Int.range]
  simp only [Nat.cast_zero, add_zero, Function.comp_def, Nat.cast_succ, add_assoc, add_comm (1 : Int)]

theorem range_passed (low high : Int) (passed : high < low) : Int.range low (high + 1) = [] := by
  rw [Int.range, Int.toNat_eq_zero.mpr (by omega)]
  rfl

theorem count_to_range (turns : Nat) (x stop : Int) (low : -2 ^ 63 ≤ x) (high : stop < 2 ^ 63 - 1)
    (enough : (stop + 1 - x).toNat < turns) : countTo turns x stop = some (Int.range x (stop + 1)) := by
  induction turns generalizing x with
  | zero => omega
  | succ turns ih =>
    rw [countTo]
    split
    · have next : wrap (x + 1) = x + 1 := wrap_fits _ (by omega) (by omega)
      rw [next, ih (x + 1) (by omega) (by omega), Option.map_some, range_cons x (stop + 1) (by omega)]
    · rw [range_passed x stop (by omega)]

theorem count_to_endless (turns : Nat) (x : Int) (held : x < 2 ^ 63) : countTo turns x (2 ^ 63 - 1) = none := by
  induction turns generalizing x with
  | zero => rfl
  | succ turns ih => rw [countTo, if_pos (by omega), ih _ (wrap_range (x + 1)).2, Option.map_none]

section Window

-- A loop that ends takes fewer turns.
def turns : Nat := 2 ^ 64 + 1

variable {P : Type} (point : Int → Int → P) (count centerX centerY reach : Int)

def side (center : Int) : Option (List Int) := countTo turns (wrap (center - reach)) (wrap (center + reach))

theorem side_eq (center : Int) :
    side reach center = if wrap (center + reach) = 2 ^ 63 - 1 then none
      else some (Int.range (wrap (center - reach)) (wrap (center + reach) + 1)) := by
  have low := wrap_range (center - reach)
  have high := wrap_range (center + reach)
  rw [side]
  split
  · rename_i greatest
    rw [greatest]
    exact count_to_endless _ _ low.2
  · exact count_to_range _ _ _ low.1 (by omega) (by rw [turns]; omega)

def column (x : Int) : Option (List P) :=
  (side reach centerY).map fun rows =>
    rows.flatMap fun y => if x ≥ 0 ∧ x < count ∧ y ≥ 0 ∧ y < count then [point x y] else []

def window : Option (List P) := do
  let columns ← side reach centerX
  let parts ← columns.mapM (column point count centerY reach)
  return parts.flatten

-- The outer loop does not end, or the inner one does not and is come to.
theorem window_eq :
    window point count centerX centerY reach =
      if wrap (centerX + reach) = 2 ^ 63 - 1 ∨ wrap (centerX - reach) ≤ wrap (centerX + reach) ∧ wrap (centerY + reach) = 2 ^ 63 - 1 then none
      else some (Cells.window point count (wrap (centerX - reach)) (wrap (centerX + reach)) (wrap (centerY - reach))
        (wrap (centerY + reach))) := by
  rw [window, side_eq]
  by_cases endless : wrap (centerX + reach) = 2 ^ 63 - 1
  · rw [if_pos endless, if_pos (.inl endless)]
    rfl
  · rw [if_neg endless, Option.bind_eq_bind, Option.bind_some]
    by_cases stuck : wrap (centerY + reach) = 2 ^ 63 - 1
    · have hangs (x : Int) : column point count centerY reach x = none := by
        rw [column, side_eq, if_pos stuck, Option.map_none]
      by_cases some_ : wrap (centerX - reach) ≤ wrap (centerX + reach)
      · rw [if_pos (.inr ⟨some_, stuck⟩), range_cons _ _ (by omega), List.mapM_cons, hangs]
        rfl
      · rw [if_neg (by tauto), Cells.window, range_passed _ _ (by omega)]
        rfl
    · have rows (x : Int) : column point count centerY reach x =
          some ((Int.range (wrap (centerY - reach)) (wrap (centerY + reach) + 1)).flatMap fun y =>
            if x ≥ 0 ∧ x < count ∧ y ≥ 0 ∧ y < count then [point x y] else []) := by
        rw [column, side_eq, if_neg stuck, Option.map_some]
      rw [if_neg (by tauto), map_m_some _ _ _ fun x _ => rows x, Option.bind_eq_bind, Option.bind_some, ← List.flatMap_def]
      rfl

end Window

end CountingLoops
