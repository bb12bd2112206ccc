import Mathlib.Algebra.Order.Floor.Ring
import Mathlib.Data.Int.Range
import Mathlib.Tactic

set_option autoImplicit false

namespace Cells

variable {α : Type} [Field α] [LinearOrder α] [IsStrictOrderedRing α] [FloorRing α]

def truncate (value : α) : Int := if value < 0 then ⌈value⌉ else ⌊value⌋

def cut (count index : Int) : Int := if index ≥ count then count - 1 else index

-- The conversion to int on amd64: what does not fit becomes the least int.
def toInt (value : Int) : Int := if -2 ^ 63 ≤ value ∧ value < 2 ^ 63 then value else -2 ^ 63

theorem to_int_fits (value : Int) (within : 0 ≤ value) (fits : value < 2 ^ 63) : toInt value = value := if_pos (by omega)

theorem to_int_past (value : Int) (past : 2 ^ 63 ≤ value) : toInt value = -2 ^ 63 := if_neg (by omega)

omit [IsStrictOrderedRing α] in
theorem truncate_nonneg (value : α) (within : 0 ≤ value) : truncate value = ⌊value⌋ :=
  if_neg (not_lt.mpr within)

theorem cut_within (count index : Int) (counted : 0 < count) (within : 0 ≤ index) :
    0 ≤ cut count index ∧ cut count index < count := by
  unfold cut
  split <;> omega

theorem cut_le_add (count low high reach : Int) (within : 0 ≤ reach) (near : high ≤ low + reach) :
    cut count high ≤ cut count low + reach := by
  unfold cut
  split <;> split <;> omega

theorem floor_le_add_ceil (low high reach : α) (near : high ≤ low + reach) : ⌊high⌋ ≤ ⌊low⌋ + ⌈reach⌉ := by
  have below : high < ((⌊low⌋ + ⌈reach⌉ + 1 : Int) : α) := by
    push_cast
    linarith [Int.lt_floor_add_one low, Int.le_ceil reach]
  exact Int.lt_add_one_iff.mp (Int.floor_lt.mpr below)

theorem cells_near (width low high distance : α) (count : Int) (positive : 0 < width) (lowWithin : 0 ≤ low)
    (highWithin : 0 ≤ high) (distanceWithin : 0 ≤ distance) (near : high ≤ low + distance) :
    cut count (truncate (high / width)) ≤ cut count (truncate (low / width)) + ⌈distance / width⌉ := by
  rw [truncate_nonneg _ (div_nonneg highWithin positive.le), truncate_nonneg _ (div_nonneg lowWithin positive.le)]
  have scaled : high / width ≤ low / width + distance / width := by
    rw [← add_div]
    exact div_le_div_of_nonneg_right near positive.le
  exact cut_le_add _ _ _ _ (Int.ceil_nonneg (div_nonneg distanceWithin positive.le)) (floor_le_add_ceil _ _ _ scaled)

def window {P : Type} (point : Int → Int → P) (count left right bottom top : Int) : List P :=
  (Int.range left (right + 1)).flatMap fun x =>
    (Int.range bottom (top + 1)).flatMap fun y =>
      if x ≥ 0 ∧ x < count ∧ y ≥ 0 ∧ y < count then [point x y] else []

theorem mem_window {P : Type} (point : Int → Int → P) (count left right bottom top : Int) (member : P) :
    member ∈ window point count left right bottom top ↔
      ∃ x y, member = point x y ∧ (0 ≤ x ∧ x < count ∧ 0 ≤ y ∧ y < count) ∧ left ≤ x ∧ x ≤ right ∧ bottom ≤ y ∧ y ≤ top := by
  simp only [window, List.mem_flatMap, Int.mem_range_iff, Int.lt_add_one_iff, ge_iff_le]
  constructor
  · rintro ⟨x, ⟨fromX, toX⟩, y, ⟨fromY, toY⟩, listed⟩
    by_cases onBoard : 0 ≤ x ∧ x < count ∧ 0 ≤ y ∧ y < count
    · rw [if_pos onBoard, List.mem_singleton] at listed
      exact ⟨x, y, listed, onBoard, fromX, toX, fromY, toY⟩
    · rw [if_neg onBoard] at listed
      cases listed
  · rintro ⟨x, y, same, onBoard, fromX, toX, fromY, toY⟩
    exact ⟨x, ⟨fromX, toX⟩, y, ⟨fromY, toY⟩, by rw [if_pos onBoard, same]; exact List.mem_singleton_self _⟩

theorem mem_cell {P : Type} (onBoard : Prop) [Decidable onBoard] (here item : P)
    (listed : item ∈ if onBoard then [here] else []) : item = here := by
  split at listed
  · exact List.mem_singleton.mp listed
  · cases listed

theorem int_range_nodup (low high : Int) : (Int.range low high).Nodup :=
  List.nodup_range.map fun first second same => by simpa using same

theorem window_nodup {P : Type} (point : Int → Int → P)
    (distinct : ∀ x y x' y', point x y = point x' y' → x = x' ∧ y = y') (count left right bottom top : Int) :
    (window point count left right bottom top).Nodup := by
  rw [window, List.nodup_flatMap]
  refine ⟨fun x _ => ?_, (int_range_nodup _ _).pairwise_of_forall_ne fun x _ x' _ apart => ?_⟩
  · rw [List.nodup_flatMap]
    refine ⟨fun y _ => by split <;> simp, (int_range_nodup _ _).pairwise_of_forall_ne fun y _ y' _ apart => ?_⟩
    intro item first second
    exact apart (distinct x y x y' ((mem_cell _ _ item first).symm.trans (mem_cell _ _ item second))).2
  · intro item first second
    obtain ⟨y, _, first⟩ := List.mem_flatMap.mp first
    obtain ⟨y', _, second⟩ := List.mem_flatMap.mp second
    exact apart (distinct x y x' y' ((mem_cell _ _ item first).symm.trans (mem_cell _ _ item second))).1

section Length

theorem flat_map_if {I P : Type} (items : List I) (keep : I → Prop) [DecidablePred keep] (part : I → List P) :
    (items.flatMap fun item => if keep item then part item else []) = (items.filter fun item => keep item).flatMap part := by
  induction items with
  | nil => rfl
  | cons item rest ih =>
    rw [List.flatMap_cons, List.filter_cons, ih]
    by_cases kept : keep item <;> simp [kept]

def clippedLength (count low high : Int) : Nat := (min high (count - 1) + 1 - max low 0).toNat

theorem clipped_length (count low high : Int) :
    ((Int.range low (high + 1)).filter fun x => 0 ≤ x ∧ x < count).length = clippedLength count low high := by
  have same : ((Int.range low (high + 1)).filter fun x => 0 ≤ x ∧ x < count).toFinset =
      Finset.Icc (max low 0) (min high (count - 1)) := by
    ext x
    simp only [List.mem_toFinset, List.mem_filter, Int.mem_range_iff, decide_eq_true_eq, Finset.mem_Icc]
    omega
  rw [← List.toFinset_card_of_nodup ((int_range_nodup _ _).filter _), same, Int.card_Icc]
  rfl

theorem window_rows {P : Type} (point : Int → Int → P) (count left right bottom top : Int) :
    window point count left right bottom top =
      ((Int.range left (right + 1)).filter fun x => 0 ≤ x ∧ x < count).flatMap fun x =>
        ((Int.range bottom (top + 1)).filter fun y => 0 ≤ y ∧ y < count).map (point x) := by
  rw [window, ← flat_map_if]
  refine List.flatMap_congr fun x _ => ?_
  split
  · rename_i column
    rw [List.map_eq_flatMap, ← flat_map_if]
    simp only [ge_iff_le, column.1, column.2, true_and]
  · rename_i column
    rw [List.flatMap_eq_nil_iff]
    intro y _
    exact if_neg fun both => column ⟨both.1, both.2.1⟩

theorem window_length {P : Type} (point : Int → Int → P) (count left right bottom top : Int) :
    (window point count left right bottom top).length = clippedLength count left right * clippedLength count bottom top := by
  rw [window_rows, List.length_flatMap]
  simp only [List.length_map, List.map_const', List.sum_replicate, clipped_length, smul_eq_mul]

end Length

end Cells
