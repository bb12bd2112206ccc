import MmoServer.Aoi.Grid

set_option autoImplicit false

namespace MmoServer.Aoi

namespace Scene

def InScene (m : Scene) (at_ : Position) : Prop :=
  m.minX ≤ at_.x ∧ at_.x < m.maxX ∧ m.minZ ≤ at_.z ∧ at_.z < m.maxZ

instance (m : Scene) (at_ : Position) : Decidable (m.InScene at_) :=
  inferInstanceAs (Decidable (_ ∧ _ ∧ _ ∧ _))

-- GetGrid finds a grid there: the two indices fit an int.
def HasGrid (m : Scene) (at_ : Position) : Prop :=
  m.InScene at_ ∧ (at_.x - m.minX) / m.gridWidth < 2 ^ 63 ∧ (at_.z - m.minZ) / m.gridWidth < 2 ^ 63

instance (m : Scene) (at_ : Position) : Decidable (m.HasGrid at_) :=
  inferInstanceAs (Decidable (_ ∧ _ ∧ _))

def cell (m : Scene) (at_ : Position) : GridPos where
  x := Cells.cut m.gridCount (Cells.truncate ((at_.x - m.minX) / m.gridWidth))
  y := Cells.cut m.gridCount (Cells.truncate ((at_.z - m.minZ) / m.gridWidth))

variable (m : Scene) (at_ : Position)

theorem width_positive (inside : m.InScene at_) : 0 < m.gridWidth := by
  have counted : (0 : ℚ) < m.gridCount := by exact_mod_cast m.counted
  have extent : 0 < m.maxX - m.minX := by linarith [inside.1, inside.2.1]
  rw [m.width]
  exact div_pos extent counted

theorem offsets_nonneg (inside : m.InScene at_) : 0 ≤ (at_.x - m.minX) / m.gridWidth ∧ 0 ≤ (at_.z - m.minZ) / m.gridWidth := by
  have positive := m.width_positive at_ inside
  obtain ⟨fromX, _, fromZ, _⟩ := inside
  exact ⟨div_nonneg (by linarith) positive.le, div_nonneg (by linarith) positive.le⟩

theorem cell_on_board (inside : m.InScene at_) : m.OnBoard (m.cell at_) := by
  obtain ⟨offsetX, offsetZ⟩ := m.offsets_nonneg at_ inside
  refine ⟨Cells.cut_within _ _ m.counted ?_, Cells.cut_within _ _ m.counted ?_⟩
  · rw [Cells.truncate_nonneg _ offsetX]
    exact Int.floor_nonneg.mpr offsetX
  · rw [Cells.truncate_nonneg _ offsetZ]
    exact Int.floor_nonneg.mpr offsetZ

-- An index that does not fit is negative.
theorem index_eq (offset : ℚ) (within : 0 ≤ offset) :
    Cells.cut m.gridCount (Cells.toInt (Cells.truncate offset)) =
      if offset < 2 ^ 63 then Cells.cut m.gridCount (Cells.truncate offset) else -2 ^ 63 := by
  have counted := m.counted
  have low : 0 ≤ ⌊offset⌋ := Int.floor_nonneg.mpr within
  have fits : ⌊offset⌋ < 2 ^ 63 ↔ offset < 2 ^ 63 := by rw [Int.floor_lt]; norm_num
  rw [Cells.truncate_nonneg _ within, Cells.toInt]
  split
  next small => rw [if_pos (fits.mp small.2)]
  next large => rw [if_neg fun small => large ⟨by omega, fits.mpr small⟩, Cells.cut, if_neg (by omega)]

theorem in_scene_iff : m.InScene at_ ↔ ¬ (at_.x < m.minX ∨ at_.x ≥ m.maxX ∨ at_.z < m.minZ ∨ at_.z ≥ m.maxZ) := by
  simp only [InScene, ge_iff_le, not_or, not_le, not_lt]

theorem get_grid_inside (found : m.HasGrid at_) : m.getGrid at_.x at_.z = .ok (m.cell at_) := by
  obtain ⟨inside, smallX, smallZ⟩ := found
  obtain ⟨offsetX, offsetZ⟩ := m.offsets_nonneg at_ inside
  simp only [getGrid, if_neg ((m.in_scene_iff at_).mp inside), index_eq m _ offsetX, index_eq m _ offsetZ, if_pos smallX, if_pos smallZ]
  exact if_pos (m.cell_on_board at_ inside)

def refusal (m : Scene) (at_ : Position) : AoiError :=
  if m.InScene at_ then .indexOutOfRange else .outOfScene at_.x at_.z m.minX m.maxX m.minZ m.maxZ

theorem get_grid_outside (missing : ¬ m.HasGrid at_) : m.getGrid at_.x at_.z = .error (m.refusal at_) := by
  by_cases inside : m.InScene at_
  · obtain ⟨offsetX, offsetZ⟩ := m.offsets_nonneg at_ inside
    simp only [getGrid, if_neg ((m.in_scene_iff at_).mp inside), index_eq m _ offsetX, index_eq m _ offsetZ, refusal, if_pos inside]
    refine if_neg fun ⟨⟨lowX, _⟩, lowZ, _⟩ => missing ⟨inside, ?_, ?_⟩
    · by_contra large
      simp [large] at lowX
    · by_contra large
      simp [large] at lowZ
  · rw [getGrid, if_pos (not_not.mp (inside ∘ (m.in_scene_iff at_).mpr)), refusal, if_neg inside]

theorem get_grid_eq : m.getGrid at_.x at_.z = if m.HasGrid at_ then .ok (m.cell at_) else .error (m.refusal at_) := by
  split
  · exact m.get_grid_inside at_ ‹_›
  · exact m.get_grid_outside at_ ‹_›

theorem get_grid_ok (grid : GridPos) : m.getGrid at_.x at_.z = .ok grid ↔ m.HasGrid at_ ∧ m.cell at_ = grid := by
  rw [get_grid_eq]
  by_cases found : m.HasGrid at_ <;> simp [found]

end Scene

namespace AOIManager

variable {E : Type} (view : EntityView E)

def stored (m : AOIManager E) (grid : GridPos) (id : String) : Option E := (m.grids grid).entities.lookup id

@[simp] theorem stored_new (minX maxX minZ maxZ : ℚ) (gridCount : Int) (counted : 0 < gridCount) (grid : GridPos)
    (id : String) : (newAOIManager E minX maxX minZ maxZ gridCount counted).stored grid id = none := rfl

@[simp] theorem enter_scene (grid : GridPos) (entity : E) (m : AOIManager E) :
    (m.enter view grid entity).toScene = m.toScene := rfl

@[simp] theorem leave_scene (grid : GridPos) (entity : E) (m : AOIManager E) :
    (m.leave view grid entity).toScene = m.toScene := by
  unfold leave
  split <;> rfl

@[simp] theorem stored_enter (grid place : GridPos) (entity : E) (id : String) (m : AOIManager E) :
    (m.enter view grid entity).stored place id =
      if place = grid ∧ id = view.getID entity then some entity else m.stored place id := by
  by_cases here : place = grid
  · subst here
    simp [stored, enter, change]
  · simp [stored, enter, change, here]

@[simp] theorem stored_leave (grid place : GridPos) (entity : E) (id : String) (m : AOIManager E) :
    (m.leave view grid entity).stored place id =
      if place = grid ∧ id = view.getID entity then none else m.stored place id := by
  cases found : (m.grids grid).entities.lookup (view.getID entity) with
  | none =>
    rw [leave, found]
    by_cases target : place = grid ∧ id = view.getID entity
    · rw [if_pos target, stored, target.1, target.2, found]
    · rw [if_neg target]
  | some _ =>
    by_cases here : place = grid
    · subst here
      simp [stored, leave, found, change]
    · simp [stored, leave, found, change, here]

variable (m : AOIManager E) (entity : E) (old : Position)

theorem add_entity_eq :
    (m.addEntity view entity).2 =
      if m.HasGrid (view.getPosition entity) then m.enter view (m.cell (view.getPosition entity)) entity else m := by
  rw [addEntity, Scene.get_grid_eq]
  by_cases inside : m.HasGrid (view.getPosition entity) <;> simp [inside]

theorem remove_entity_eq :
    (m.removeEntity view entity).2 =
      if m.HasGrid (view.getPosition entity) then m.leave view (m.cell (view.getPosition entity)) entity else m := by
  rw [removeEntity, Scene.get_grid_eq]
  by_cases inside : m.HasGrid (view.getPosition entity) <;> simp [inside]

theorem same_grid (first second : GridPos) :
    ((m.grids first).gridPos.x = (m.grids second).gridPos.x ∧ (m.grids first).gridPos.y = (m.grids second).gridPos.y) ↔
      first = second := by
  rw [m.located, m.located, GridPos.mk.injEq]

theorem grids_to_change_inside (before : m.HasGrid old) (inside : m.HasGrid (view.getPosition entity)) :
    m.gridsToChange view entity old.x old.z =
      .ok (if m.cell old = m.cell (view.getPosition entity) then none
        else some (m.cell old, m.cell (view.getPosition entity))) := by
  simp only [gridsToChange, m.get_grid_inside old before, m.get_grid_inside _ inside]
  by_cases same : m.cell old = m.cell (view.getPosition entity)
  · rw [if_pos same]
    exact if_pos ((same_grid m _ _).mpr same)
  · rw [if_neg same]
    exact if_neg (fun equal => same ((same_grid m _ _).mp equal))

theorem grids_to_change_outside (outside : ¬ (m.HasGrid old ∧ m.HasGrid (view.getPosition entity))) :
    ∃ err, m.gridsToChange view entity old.x old.z = .error err := by
  by_cases before : m.HasGrid old
  · have after := m.get_grid_outside _ (fun inside => outside ⟨before, inside⟩)
    exact ⟨_, by simp only [gridsToChange, m.get_grid_inside old before, after]; rfl⟩
  · exact ⟨_, by simp only [gridsToChange, m.get_grid_outside old before]; rfl⟩

theorem update_entity_eq :
    (m.updateEntity view entity old.x old.z).2 =
      if m.HasGrid old ∧ m.HasGrid (view.getPosition entity) ∧ m.cell old ≠ m.cell (view.getPosition entity) then
        (m.leave view (m.cell old) entity).enter view (m.cell (view.getPosition entity)) entity
      else m := by
  by_cases both : m.HasGrid old ∧ m.HasGrid (view.getPosition entity)
  · rw [updateEntity, grids_to_change_inside view m entity old both.1 both.2]
    by_cases same : m.cell old = m.cell (view.getPosition entity) <;> simp [both.1, both.2, same]
  · obtain ⟨err, refused⟩ := grids_to_change_outside view m entity old both
    rw [updateEntity, refused, if_neg (fun all => both ⟨all.1, all.2.1⟩)]

def Counted (m : AOIManager E) : Prop := ∀ grid, (m.grids grid).playerCount = (m.grids grid).entities.size

theorem enter_counted (grid : GridPos) (entity : E) (m : AOIManager E) (isPlayer : view.getTypeID entity = 0)
    (absent : m.stored grid (view.getID entity) = none) (counted : m.Counted) : (m.enter view grid entity).Counted := by
  intro place
  by_cases here : place = grid
  · subst here
    simp [enter, change, isPlayer, counted place, AList.size_insert_fresh _ _ entity absent]
  · simp [enter, change, here, counted place]

theorem leave_counted (grid : GridPos) (entity : E) (m : AOIManager E) (isPlayer : view.getTypeID entity = 0)
    (counted : m.Counted) : (m.leave view grid entity).Counted := by
  intro place
  cases found : (m.grids grid).entities.lookup (view.getID entity) with
  | none => rw [leave, found, counted place]
  | some present =>
    by_cases here : place = grid
    · subst here
      have sizes := AList.size_erase_present _ _ present found
      simp only [leave, found, change, if_pos, isPlayer, counted place]
      omega
    · simp [leave, found, change, here, counted place]

end AOIManager

end MmoServer.Aoi
