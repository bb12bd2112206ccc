import MmoServer.Aoi.Placement

set_option autoImplicit false

namespace MmoServer.Aoi.AOIManager

open Chunks

variable {E : Type}

def Indexed (m : AOIManager E) (entity : E) : Prop := ∃ grid id, m.stored grid id = some entity

structure Placed (view : EntityView E) (m : AOIManager E) : Prop where
  own : ∀ grid id entity, m.stored grid id = some entity → view.getID entity = id
  home : ∀ grid id entity, m.stored grid id = some entity →
    m.getGrid (view.getPosition entity).x (view.getPosition entity).z = .ok grid

theorem surrounding_eq (m : AOIManager E) (center : GridPos) (range_ : Int) (grids : List GridPos)
    (ended : m.getSurroundingGridsByRange center range_ = some grids) :
    grids = Cells.window GridPos.mk m.gridCount (wrap (center.x - range_)) (wrap (center.x + range_))
      (wrap (center.y - range_)) (wrap (center.y + range_)) := by
  rw [getSurroundingGridsByRange, m.located, CountingLoops.window_eq] at ended
  split at ended
  · cases ended
  · exact (Option.some_inj.mp ended).symm

section Loops

variable (m : AOIManager E) (held : m.gridCount < 2 ^ 63) (center : GridPos) (onBoard : m.OnBoard center) (reach : Int)
  (within : 0 ≤ reach)

include held onBoard within

theorem surrounding_fits (column : center.x + reach < 2 ^ 63 - 1) (row : center.y + reach < 2 ^ 63 - 1) :
    m.getSurroundingGridsByRange center (Cells.toInt reach) =
      some (Cells.window GridPos.mk m.gridCount (center.x - reach) (center.x + reach) (center.y - reach) (center.y + reach)) := by
  obtain ⟨⟨lowX, highX⟩, lowY, highY⟩ := onBoard
  rw [getSurroundingGridsByRange, m.located, CountingLoops.window_eq, Cells.to_int_fits reach within (by omega),
    wrap_fits (center.x - reach) (by omega) (by omega), wrap_fits (center.x + reach) (by omega) (by omega),
    wrap_fits (center.y - reach) (by omega) (by omega), wrap_fits (center.y + reach) (by omega) (by omega),
    if_neg (by omega)]

theorem surrounding_skips
    (past : 2 ^ 63 ≤ center.x + reach ∨ center.x + reach < 2 ^ 63 - 1 ∧ 2 ^ 63 ≤ center.y + reach) :
    m.getSurroundingGridsByRange center (Cells.toInt reach) = some [] := by
  obtain ⟨⟨lowX, highX⟩, lowY, highY⟩ := onBoard
  have ended : ∃ grids, m.getSurroundingGridsByRange center (Cells.toInt reach) = some grids ∧
      ¬ (0 ≤ wrap (center.x + Cells.toInt reach) ∧
        wrap (center.x - Cells.toInt reach) ≤ wrap (center.x + Cells.toInt reach) ∧
        wrap (center.y - Cells.toInt reach) ≤ wrap (center.y + Cells.toInt reach)) := by
    rw [getSurroundingGridsByRange, m.located, CountingLoops.window_eq]
    by_cases fits : reach < 2 ^ 63
    · rw [Cells.to_int_fits reach within (by omega), wrap_fits (center.x - reach) (by omega) (by omega),
        wrap_fits (center.y - reach) (by omega) (by omega)]
      rcases past with column | ⟨column, row⟩
      · rw [wrap_above (center.x + reach) (by omega) (by omega), if_neg (by omega)]
        exact ⟨_, rfl, by omega⟩
      · rw [wrap_fits (center.x + reach) (by omega) (by omega), wrap_above (center.y + reach) (by omega) (by omega),
          if_neg (by omega)]
        exact ⟨_, rfl, by omega⟩
    · rw [Cells.to_int_past reach (by omega), wrap_fits (center.x + -2 ^ 63) (by omega) (by omega),
        wrap_fits (center.y + -2 ^ 63) (by omega) (by omega), if_neg (by omega)]
      exact ⟨_, rfl, by omega⟩
  obtain ⟨grids, ended, empty⟩ := ended
  rw [ended, m.surrounding_eq center _ grids ended, Option.some_inj, List.eq_nil_iff_forall_not_mem]
  intro grid listed
  obtain ⟨x, y, _, inside, window⟩ := (Cells.mem_window _ _ _ _ _ _ _).mp listed
  omega

theorem surrounding_endless
    (greatest : center.x + reach = 2 ^ 63 - 1 ∨ center.x + reach < 2 ^ 63 - 1 ∧ center.y + reach = 2 ^ 63 - 1) :
    m.getSurroundingGridsByRange center (Cells.toInt reach) = none := by
  obtain ⟨⟨lowX, highX⟩, lowY, highY⟩ := onBoard
  rw [getSurroundingGridsByRange, m.located, CountingLoops.window_eq, Cells.to_int_fits reach within (by omega),
    wrap_fits (center.x - reach) (by omega) (by omega), wrap_fits (center.x + reach) (by omega) (by omega)]
  refine if_pos ?_
  rcases greatest with column | ⟨_, row⟩
  · exact .inl column
  · rw [row]
    exact .inr ⟨by omega, by decide⟩

end Loops

variable (order : Shuffle E) (view : EntityView E) (m : AOIManager E)

theorem mem_grids_entities (grids : List GridPos) (entity : E) :
    entity ∈ grids.flatMap (fun grid => order.apply (m.grids grid).entities.values) ↔
      ∃ grid ∈ grids, ∃ id, m.stored grid id = some entity := by
  simp only [List.mem_flatMap, Shuffle.mem_apply, AList.mem_values, stored]

theorem entity_map_origin (items : List E) (id : String) (entity : E)
    (kept : ((∅ : GoMap String E).insertPairs (items.map fun entity => (view.getID entity, entity))).lookup id = some entity) :
    entity ∈ items ∧ view.getID entity = id := by
  rcases AList.insert_pairs_origin _ _ _ _ kept with paired | absent
  · obtain ⟨same, listed, pair⟩ := List.mem_map.mp paired
    cases pair
    exact ⟨listed, rfl⟩
  · simp at absent

theorem surrounding_entities_found (at_ : Position) (range_ : Int) (inside : m.HasGrid at_) :
    m.getSurroundingEntities order view at_.x at_.z range_ =
      match m.getSurroundingGridsByRange (m.cell at_) range_ with
      | some grids => .ok (order.apply ((∅ : GoMap String E).insertPairs
          ((grids.flatMap fun grid => order.apply (m.grids grid).entities.values).map
            fun entity => (view.getID entity, entity))).values)
      | none => .error .endless := by
  simp only [getSurroundingEntities, getSurroundingGrids, m.get_grid_inside at_ inside, bind, Except.bind]
  cases m.getSurroundingGridsByRange (m.cell at_) range_ <;> rfl

theorem surrounding_entities_indexed (x z : ℚ) (range_ : Int) (found : List E)
    (answered : m.getSurroundingEntities order view x z range_ = .ok found) (entity : E) (member : entity ∈ found) :
    m.Indexed entity := by
  by_cases inside : m.HasGrid ⟨x, 0, z⟩
  · rw [surrounding_entities_found order view m ⟨x, 0, z⟩ range_ inside] at answered
    split at answered
    · cases answered
      rw [Shuffle.mem_apply, AList.mem_values] at member
      obtain ⟨id, kept⟩ := member
      obtain ⟨listed, _⟩ := entity_map_origin view _ id entity kept
      obtain ⟨grid, _, key, held⟩ := (mem_grids_entities order m _ entity).mp listed
      exact ⟨grid, key, held⟩
    · cases answered
  · have refused := m.get_grid_outside ⟨x, 0, z⟩ inside
    simp only [getSurroundingEntities, getSurroundingGrids, refused] at answered
    cases answered

theorem distance_entities_indexed (x y z distance : ℚ) (found : List E)
    (answered : m.getEntitiesByDistance order view x y z distance = .ok found) (entity : E) (member : entity ∈ found) :
    m.Indexed entity := by
  cases around : m.getSurroundingEntities order view x z (Cells.toInt ⌈distance / m.gridWidth⌉) with
  | error err =>
    simp only [getEntitiesByDistance, around] at answered
    cases answered
  | ok surrounding =>
    simp only [getEntitiesByDistance, around] at answered
    cases answered
    exact surrounding_entities_indexed order view m x z _ surrounding around entity (List.mem_of_mem_filter member)

def Unique (view : EntityView E) (m : AOIManager E) : Prop :=
  ∀ first second, m.Indexed first → m.Indexed second → view.getID first = view.getID second → first = second

theorem surrounding_entities_exact (unique : m.Unique view) (at_ : Position) (range_ : Int) (inside : m.HasGrid at_)
    (grids : List GridPos) (around : m.getSurroundingGridsByRange (m.cell at_) range_ = some grids) :
    ∃ found, m.getSurroundingEntities order view at_.x at_.z range_ = .ok found ∧ found.Nodup ∧
      ∀ entity, entity ∈ found ↔ ∃ grid ∈ grids, ∃ id, m.stored grid id = some entity := by
  refine ⟨_, by rw [surrounding_entities_found order _ m at_ range_ inside, around], ?_, ?_⟩
  · rw [(order.perm _).nodup_iff]
    apply AList.values_nodup view.getID
    intro id entity kept
    exact (entity_map_origin view _ id entity kept).2
  · intro entity
    rw [Shuffle.mem_apply, AList.mem_values, ← mem_grids_entities order]
    constructor
    · rintro ⟨id, kept⟩
      exact (entity_map_origin view _ id entity kept).1
    · intro listed
      have indexed (one : E) (member : one ∈ grids.flatMap fun grid => order.apply (m.grids grid).entities.values) : m.Indexed one := by
        obtain ⟨grid, _, id, held⟩ := (mem_grids_entities order m _ one).mp member
        exact ⟨grid, id, held⟩
      refine ⟨view.getID entity, AList.lookup_insert_pairs_mem _ _ (view.getID entity, entity)
        (List.mem_map.mpr ⟨entity, listed, rfl⟩) ?_⟩
      rintro other member same
      obtain ⟨second, among, rfl⟩ := List.mem_map.mp member
      rw [unique second entity (indexed second among) (indexed entity listed) same]

theorem side_le_of_square (side others distance : ℚ) (within : 0 ≤ distance) (rest : 0 ≤ others)
    (near : side * side + others ≤ distance * distance) : |side| ≤ distance :=
  abs_le_of_sq_le_sq (by nlinarith) within

section Distance

variable (m : AOIManager E) (at_ : Position) (distance : ℚ)

theorem near_cell_surrounds (center : Position) (centerInside : m.InScene center) (inside : m.InScene at_) (within : 0 ≤ distance)
    (near : distanceSquared at_ center.x center.y center.z ≤ distance * distance) :
    ((m.cell center).x - ⌈distance / m.gridWidth⌉ ≤ (m.cell at_).x ∧ (m.cell at_).x ≤ (m.cell center).x + ⌈distance / m.gridWidth⌉) ∧
      (m.cell center).y - ⌈distance / m.gridWidth⌉ ≤ (m.cell at_).y ∧ (m.cell at_).y ≤ (m.cell center).y + ⌈distance / m.gridWidth⌉ := by
  have positive := m.width_positive at_ inside
  unfold distanceSquared at near
  have sideX := abs_le.mp (side_le_of_square (at_.x - center.x) _ distance within
    (add_nonneg (mul_self_nonneg (at_.y - center.y)) (mul_self_nonneg (at_.z - center.z))) (by linarith))
  have sideZ := abs_le.mp (side_le_of_square (at_.z - center.z) _ distance within
    (add_nonneg (mul_self_nonneg (at_.x - center.x)) (mul_self_nonneg (at_.y - center.y))) (by linarith))
  have offsets : (0 ≤ center.x - m.minX ∧ 0 ≤ center.z - m.minZ) ∧ 0 ≤ at_.x - m.minX ∧ 0 ≤ at_.z - m.minZ := by
    obtain ⟨centerX, _, centerZ, _⟩ := centerInside
    obtain ⟨fromX, _, fromZ, _⟩ := inside
    exact ⟨⟨by linarith, by linarith⟩, by linarith, by linarith⟩
  obtain ⟨⟨centerX, centerZ⟩, fromX, fromZ⟩ := offsets
  have right := Cells.cells_near _ _ _ distance m.gridCount positive centerX fromX within (by linarith [sideX.2])
  have left := Cells.cells_near _ _ _ distance m.gridCount positive fromX centerX within (by linarith [sideX.1])
  have above := Cells.cells_near _ _ _ distance m.gridCount positive centerZ fromZ within (by linarith [sideZ.2])
  have below := Cells.cells_near _ _ _ distance m.gridCount positive fromZ centerZ within (by linarith [sideZ.1])
  exact ⟨⟨sub_le_iff_le_add.mpr left, right⟩, sub_le_iff_le_add.mpr below, above⟩

-- The window of the query is counted without an overflow.
def Searches : Prop :=
  (m.cell at_).x + ⌈distance / m.gridWidth⌉ < 2 ^ 63 - 1 ∧ (m.cell at_).y + ⌈distance / m.gridWidth⌉ < 2 ^ 63 - 1

-- The loops over the window end without a grid.
def Skips : Prop :=
  2 ^ 63 ≤ (m.cell at_).x + ⌈distance / m.gridWidth⌉ ∨
    (m.cell at_).x + ⌈distance / m.gridWidth⌉ < 2 ^ 63 - 1 ∧ 2 ^ 63 ≤ (m.cell at_).y + ⌈distance / m.gridWidth⌉

structure Finds (view : EntityView E) (found : List E) : Prop where
  once : found.Nodup
  near : ∀ entity, entity ∈ found ↔
    m.Indexed entity ∧ distanceSquared (view.getPosition entity) at_.x at_.y at_.z ≤ distance * distance

theorem has_grid_iff (held : m.gridCount < 2 ^ 63) (inside : m.InScene at_) :
    m.HasGrid at_ ↔ (at_.z - m.minZ) / m.gridWidth < 2 ^ 63 := by
  have positive := m.width_positive at_ inside
  have counted : (m.gridCount : ℚ) < 2 ^ 63 := by exact_mod_cast held
  have extent : m.gridWidth * m.gridCount = m.maxX - m.minX := by
    rw [m.width]
    exact div_mul_cancel₀ _ (by exact_mod_cast m.counted.ne')
  have column : (at_.x - m.minX) / m.gridWidth < m.gridCount := by
    rw [div_lt_iff₀ positive, mul_comm, extent]
    linarith [inside.2.1]
  exact ⟨fun found => found.2.2, fun row => ⟨inside, column.trans counted, row⟩⟩

section Query

variable (order : Shuffle E) (view : EntityView E) (held : m.gridCount < 2 ^ 63) (placed : m.Placed view) (within : 0 ≤ distance)

include placed

theorem query_finds_iff (unique : m.Unique view) (inside : m.HasGrid at_) (grids : List GridPos)
    (around : m.getSurroundingGridsByRange (m.cell at_) (Cells.toInt ⌈distance / m.gridWidth⌉) = some grids) :
    (∃ found, m.getEntitiesByDistance order view at_.x at_.y at_.z distance = .ok found ∧ m.Finds at_ distance view found) ↔
      ∀ entity, m.Indexed entity → distanceSquared (view.getPosition entity) at_.x at_.y at_.z ≤ distance * distance →
        m.cell (view.getPosition entity) ∈ grids := by
  obtain ⟨surrounding, answered, distinct, exact_⟩ := surrounding_entities_exact order view m unique at_ _ inside grids around
  have query : m.getEntitiesByDistance order view at_.x at_.y at_.z distance =
      .ok (surrounding.filter fun entity => distanceSquared (view.getPosition entity) at_.x at_.y at_.z ≤ distance * distance) := by
    simp only [getEntitiesByDistance, answered]
    rfl
  simp only [query, Except.ok.injEq, exists_eq_left']
  constructor
  · intro finds entity indexed near
    obtain ⟨grid, listed, id, stored⟩ := (exact_ entity).mp (List.mem_of_mem_filter ((finds.near entity).mpr ⟨indexed, near⟩))
    rwa [((m.get_grid_ok _ grid).mp (placed.home grid id entity stored)).2]
  · intro covers
    refine ⟨distinct.filter _, fun entity => ?_⟩
    rw [List.mem_filter, decide_eq_true_eq, exact_]
    refine and_congr_left fun near => ⟨fun ⟨grid, _, id, stored⟩ => ⟨grid, id, stored⟩, ?_⟩
    rintro ⟨grid, id, stored⟩
    obtain ⟨_, rfl⟩ := (m.get_grid_ok _ grid).mp (placed.home grid id entity stored)
    exact ⟨_, covers entity ⟨_, id, stored⟩ near, id, stored⟩

include held within

theorem search_finds (unique : m.Unique view) (inside : m.HasGrid at_) (fits : m.Searches at_ distance) :
    ∃ found, m.getEntitiesByDistance order view at_.x at_.y at_.z distance = .ok found ∧ m.Finds at_ distance view found := by
  have reach : 0 ≤ ⌈distance / m.gridWidth⌉ := Int.ceil_nonneg (div_nonneg within (m.width_positive at_ inside.1).le)
  have around := m.surrounding_fits held _ (m.cell_on_board at_ inside.1) _ reach fits.1 fits.2
  refine (query_finds_iff m at_ distance order view placed unique inside _ around).mpr fun entity ⟨grid, id, stored⟩ near => ?_
  have home := ((m.get_grid_ok _ grid).mp (placed.home grid id entity stored)).1.1
  obtain ⟨⟨left, right⟩, below, above⟩ := m.near_cell_surrounds _ distance at_ inside.1 home within near
  obtain ⟨⟨lowX, highX⟩, lowY, highY⟩ := m.cell_on_board _ home
  exact (Cells.mem_window _ _ _ _ _ _ _).mpr ⟨_, _, rfl, ⟨lowX, highX, lowY, highY⟩, left, right, below, above⟩

end Query

theorem query_answered (order : Shuffle E) (view : EntityView E) (found : List E)
    (answered : m.getEntitiesByDistance order view at_.x at_.y at_.z distance = .ok found) :
    m.HasGrid at_ ∧ m.getSurroundingGridsByRange (m.cell at_) (Cells.toInt ⌈distance / m.gridWidth⌉) ≠ none := by
  by_cases inside : m.HasGrid at_
  · refine ⟨inside, fun stuck => ?_⟩
    simp only [getEntitiesByDistance, surrounding_entities_found order view m at_ _ inside, stuck] at answered
    cases answered
  · simp only [getEntitiesByDistance, getSurroundingEntities, getSurroundingGrids, m.get_grid_outside at_ inside] at answered
    cases answered

theorem distance_query_exact_iff (order : Shuffle E) (entities : Entity E) (held : m.gridCount < 2 ^ 63)
    (placed : m.Placed entities.toEntityView) (within : 0 ≤ distance) (inside : m.InScene at_) :
    (∃ found, m.getEntitiesByDistance order entities.toEntityView at_.x at_.y at_.z distance = .ok found ∧
        m.Finds at_ distance entities.toEntityView found) ↔
      (at_.z - m.minZ) / m.gridWidth < 2 ^ 63 ∧
        (m.Searches at_ distance ∨ m.Skips at_ distance ∧
          ∀ entity, m.Indexed entity → distance * distance < distanceSquared (entities.getPosition entity) at_.x at_.y at_.z) := by
  rw [← m.has_grid_iff at_ held inside]
  have unique : m.Unique entities.toEntityView := fun first second _ _ => entities.unique first second
  by_cases found : m.HasGrid at_
  · rw [and_iff_right found]
    by_cases fits : m.Searches at_ distance
    · exact iff_of_true (m.search_finds at_ distance order _ held placed within unique found fits) (.inl fits)
    · rw [or_iff_right fits]
      have onBoard := m.cell_on_board at_ inside
      have reach : 0 ≤ ⌈distance / m.gridWidth⌉ := Int.ceil_nonneg (div_nonneg within (m.width_positive at_ inside).le)
      by_cases skips : m.Skips at_ distance
      · rw [query_finds_iff m at_ distance order _ placed unique found _ (m.surrounding_skips held _ onBoard _ reach skips),
          and_iff_right skips]
        simp only [List.not_mem_nil, imp_false, not_le]
      · rw [Searches] at fits
        rw [Skips] at skips
        have stuck := m.surrounding_endless held _ onBoard _ reach (by omega)
        refine iff_of_false ?_ (fun both => skips both.1)
        rintro ⟨result, answered, _⟩
        exact (m.query_answered at_ distance order _ result answered).2 stuck
  · refine iff_of_false ?_ fun both => found both.1
    rintro ⟨result, answered, _⟩
    exact found (m.query_answered at_ distance order _ result answered).1

end Distance

def sentries : Entity Bool where
  getID := fun near => if near then "near" else "far"
  getPosition := fun near => if near then ⟨3, 0, 4⟩ else ⟨95, 0, 55⟩
  getTypeID := fun _ => 0
  unique := by decide

def sentryScene : AOIManager Bool :=
  ((newAOIManager Bool 0 100 0 60 10 (by decide)).enter sentries.toEntityView ⟨0, 0⟩ true).enter
    sentries.toEntityView ⟨9, 5⟩ false

theorem sentries_stored (grid : GridPos) (id : String) (entity : Bool) (held : sentryScene.stored grid id = some entity) :
    (grid = ⟨9, 5⟩ ∧ id = "far" ∧ entity = false) ∨ (grid = ⟨0, 0⟩ ∧ id = "near" ∧ entity = true) := by
  rw [sentryScene, stored_enter, stored_enter, stored_new] at held
  split at held
  · exact .inl (by simp_all [sentries])
  · split at held
    · exact .inr (by simp_all [sentries])
    · cases held

theorem sentries_placed : sentryScene.Placed sentries.toEntityView := by
  constructor
  · intro grid id entity held
    rcases sentries_stored grid id entity held with ⟨_, rfl, rfl⟩ | ⟨_, rfl, rfl⟩ <;> rfl
  · intro grid id entity held
    rcases sentries_stored grid id entity held with ⟨rfl, _, rfl⟩ | ⟨rfl, _, rfl⟩ <;> decide +kernel

theorem near_sentry_found :
    ∃ found, sentryScene.getEntitiesByDistance Shuffle.backward sentries.toEntityView 0 0 0 5 = .ok found ∧
      sentryScene.Finds ⟨0, 0, 0⟩ 5 sentries.toEntityView found :=
  (distance_query_exact_iff sentryScene ⟨0, 0, 0⟩ 5 Shuffle.backward sentries (by decide) sentries_placed (by decide +kernel)
    (by decide +kernel)).mpr ⟨by decide +kernel, .inl ⟨by decide +kernel, by decide +kernel⟩⟩

theorem widest_query_finds_nobody :
    sentryScene.Placed sentries.toEntityView ∧ sentryScene.InScene ⟨0, 0, 0⟩ ∧ sentryScene.stored ⟨0, 0⟩ "near" = some true ∧
      sentryScene.getEntitiesByDistance Shuffle.listed sentries.toEntityView 0 0 0 (10 ^ 20) = .ok [] ∧
      ¬ ∃ found, sentryScene.getEntitiesByDistance Shuffle.listed sentries.toEntityView 0 0 0 (10 ^ 20) = .ok found ∧
        sentryScene.Finds ⟨0, 0, 0⟩ (10 ^ 20) sentries.toEntityView found := by
  have stored : sentryScene.stored ⟨0, 0⟩ "near" = some true := by decide +kernel
  have none : sentryScene.getEntitiesByDistance Shuffle.listed sentries.toEntityView 0 0 0 (10 ^ 20) = .ok [] := by decide +kernel
  refine ⟨sentries_placed, by decide +kernel, stored, none, ?_⟩
  rintro ⟨found, answered, finds⟩
  cases none.symm.trans answered
  have here := (finds.near true).mpr ⟨⟨_, _, stored⟩, by decide +kernel⟩
  cases here

end MmoServer.Aoi.AOIManager
