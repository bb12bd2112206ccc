import MmoServer.Aoi.DistanceQuery

set_option autoImplicit false

namespace MmoServer.Aoi

namespace AOIManager

variable {E : Type}

structure Neighbourhood (m : AOIManager E) (center : GridPos) (range_ : Int) (grids : List GridPos) : Prop where
  once : grids.Nodup
  near : ∀ grid, grid ∈ grids ↔ m.OnBoard grid ∧ |grid.x - center.x| ≤ range_ ∧ |grid.y - center.y| ≤ range_
  length : grids.length = Cells.clippedLength m.gridCount (center.x - range_) (center.x + range_) *
    Cells.clippedLength m.gridCount (center.y - range_) (center.y + range_)

theorem window_neighbourhood (m : AOIManager E) (center : GridPos) (range_ : Int) :
    m.Neighbourhood center range_ (Cells.window GridPos.mk m.gridCount (center.x - range_) (center.x + range_) (center.y - range_)
      (center.y + range_)) where
  once := Cells.window_nodup _ (fun x y x' y' same => by simpa using same) _ _ _ _ _
  near := by
    intro grid
    rw [Cells.mem_window, Scene.OnBoard, abs_le, abs_le]
    constructor
    · rintro ⟨x, y, rfl, ⟨fromX, toX, fromY, toY⟩, left, right, down, up⟩
      refine ⟨⟨⟨fromX, toX⟩, fromY, toY⟩, ⟨?_, ?_⟩, ?_, ?_⟩ <;> dsimp only <;> omega
    · rintro ⟨⟨⟨fromX, toX⟩, fromY, toY⟩, ⟨left, right⟩, down, up⟩
      exact ⟨grid.x, grid.y, rfl, ⟨fromX, toX, fromY, toY⟩, by omega, by omega, by omega, by omega⟩
  length := Cells.window_length _ _ _ _ _ _

theorem neighbourhood_not_nil (m : AOIManager E) (center : GridPos) (onBoard : m.OnBoard center) (range_ : Int) (within : 0 ≤ range_) :
    ¬ m.Neighbourhood center range_ [] := by
  intro exact_
  have here := (exact_.near center).mpr ⟨onBoard, by simpa using within, by simpa using within⟩
  cases here

section Machine

variable (m : AOIManager E) (held : m.gridCount < 2 ^ 63) (center : GridPos) (onBoard : m.OnBoard center) (range_ : Int)
  (ranged : 0 ≤ range_ ∧ range_ < 2 ^ 63)

include held onBoard ranged

theorem surrounding_neighbourhood_iff :
    (∃ grids, m.getSurroundingGridsByRange center range_ = some grids ∧ m.Neighbourhood center range_ grids) ↔
      center.x + range_ < 2 ^ 63 - 1 ∧ center.y + range_ < 2 ^ 63 - 1 := by
  have fits := m.surrounding_fits held center onBoard range_ ranged.1
  have skips := m.surrounding_skips held center onBoard range_ ranged.1
  have endless := m.surrounding_endless held center onBoard range_ ranged.1
  rw [Cells.to_int_fits range_ ranged.1 ranged.2] at fits skips endless
  constructor
  · rintro ⟨grids, ended, exact_⟩
    by_contra past
    by_cases stuck : center.x + range_ = 2 ^ 63 - 1 ∨ center.x + range_ < 2 ^ 63 - 1 ∧ center.y + range_ = 2 ^ 63 - 1
    · rw [endless stuck] at ended
      cases ended
    · rw [skips (by omega)] at ended
      cases ended
      exact m.neighbourhood_not_nil center onBoard range_ ranged.1 exact_
  · rintro ⟨column, row⟩
    exact ⟨_, fits column row, m.window_neighbourhood center range_⟩

theorem neighbourhood_exact_iff :
    ((∃ grids, m.getSurroundingGridsByRange center range_ = some grids ∧ m.Neighbourhood center range_ grids) ↔
      center.x + range_ < 2 ^ 63 - 1 ∧ center.y + range_ < 2 ^ 63 - 1) ∧
    ∀ at_, m.InScene at_ → ((∃ pos grid, m.getGridPosition at_.x at_.z = .ok pos ∧ m.getGrid at_.x at_.z = .ok grid ∧
      (m.grids grid).gridPos = pos ∧ m.OnBoard pos) ↔ (at_.z - m.minZ) / m.gridWidth < 2 ^ 63) := by
  refine ⟨m.surrounding_neighbourhood_iff held center onBoard range_ ranged, fun at_ inside => ?_⟩
  rw [← m.has_grid_iff at_ held inside]
  constructor
  · rintro ⟨pos, grid, _, found, _⟩
    exact ((m.get_grid_ok at_ grid).mp found).1
  · intro found
    obtain ⟨offsetX, offsetZ⟩ := m.offsets_nonneg at_ inside
    have position : m.getGridPosition at_.x at_.z = .ok (m.cell at_) := by
      simp only [Scene.getGridPosition, if_neg ((m.in_scene_iff at_).mp inside), m.index_eq _ offsetX, m.index_eq _ offsetZ,
        if_pos found.2.1, if_pos found.2.2]
      rfl
    exact ⟨m.cell at_, m.cell at_, position, m.get_grid_inside at_ found, m.located _, m.cell_on_board at_ inside⟩

end Machine

theorem ten_counted : (0 : Int) < 10 := by decide

def tenByTen : AOIManager Unit := newAOIManager Unit 0 100 0 100 10 ten_counted

theorem corner_neighbourhood :
    (∃ grids, tenByTen.getSurroundingGridsByRange ⟨0, 0⟩ 1 = some grids ∧ tenByTen.Neighbourhood ⟨0, 0⟩ 1 grids) ∧
    ∃ pos grid, tenByTen.getGridPosition 99 5 = .ok pos ∧ tenByTen.getGrid 99 5 = .ok grid ∧
      (tenByTen.grids grid).gridPos = pos ∧ tenByTen.OnBoard pos :=
  have exact_ := tenByTen.neighbourhood_exact_iff (by decide) ⟨0, 0⟩ (by decide) 1 (by decide)
  ⟨exact_.1.mpr (by decide), (exact_.2 ⟨99, 0, 5⟩ (by decide +kernel)).mpr (by decide +kernel)⟩

-- A scene of one unit in x and 10 ^ 30 in z.
def longScene : AOIManager Unit := newAOIManager Unit 0 1 0 (10 ^ 30) 10 ten_counted

theorem widest_range_finds_nothing :
    (tenByTen.getSurroundingGridsByRange ⟨1, 0⟩ (2 ^ 63 - 1) = some [] ∧
      ¬ ∃ grids, tenByTen.getSurroundingGridsByRange ⟨1, 0⟩ (2 ^ 63 - 1) = some grids ∧
        tenByTen.Neighbourhood ⟨1, 0⟩ (2 ^ 63 - 1) grids) ∧
    longScene.InScene ⟨0, 0, 10 ^ 29⟩ ∧ longScene.getGridPosition 0 (10 ^ 29) = .ok ⟨0, -2 ^ 63⟩ ∧
      longScene.getGrid 0 (10 ^ 29) = .error .indexOutOfRange := by
  have nothing : tenByTen.getSurroundingGridsByRange ⟨1, 0⟩ (2 ^ 63 - 1) = some [] := by decide +kernel
  refine ⟨⟨nothing, ?_⟩, by decide +kernel, by decide +kernel, by decide +kernel⟩
  rintro ⟨grids, ended, exact_⟩
  cases nothing.symm.trans ended
  exact tenByTen.neighbourhood_not_nil ⟨1, 0⟩ (by decide) _ (by decide) exact_

end AOIManager

end MmoServer.Aoi
