import MmoServer.Lib.CountingLoops
import Mathlib.Data.Rat.Floor

set_option autoImplicit false

namespace MmoServer.Aoi

structure GridPos where
  x : Int
  y : Int
deriving DecidableEq, Repr

structure Position where
  x : ℚ
  y : ℚ
  z : ℚ
deriving DecidableEq, Repr

-- A position is read at each call: the entity may have moved meanwhile.
structure EntityView (E : Type) where
  getID : E → String
  getPosition : E → Position
  getTypeID : E → Int

structure Entity (E : Type) extends EntityView E where
  unique : ∀ first second, getID first = getID second → first = second

structure Grid (E : Type) where
  gridPos : GridPos
  entities : GoMap String E := ∅
  playerCount : Int := 0

-- What never changes after NewAOIManager. Without a grid the first lookup panics.
structure Scene where
  minX : ℚ
  maxX : ℚ
  minZ : ℚ
  maxZ : ℚ
  gridWidth : ℚ
  gridCount : Int
  counted : 0 < gridCount
  width : gridWidth = (maxX - minX) / gridCount

-- A grid pointer is its place in the array, which is allocated once.
structure AOIManager (E : Type) extends Scene where
  grids : GridPos → Grid E
  located : ∀ place, (grids place).gridPos = place

-- The error of the source, a panic, and a loop that does not end.
inductive AoiError where
  | outOfScene (x z minX maxX minZ maxZ : ℚ)
  | indexOutOfRange
  | endless
deriving DecidableEq, Repr

def newAOIManager (E : Type) (minX maxX minZ maxZ : ℚ) (gridCount : Int) (counted : 0 < gridCount) : AOIManager E where
  minX := minX
  maxX := maxX
  minZ := minZ
  maxZ := maxZ
  gridWidth := (maxX - minX) / gridCount
  gridCount := gridCount
  counted := counted
  width := rfl
  grids := fun place => { gridPos := place }
  located := fun _ => rfl

namespace Scene

def OnBoard (m : Scene) (place : GridPos) : Prop :=
  (0 ≤ place.x ∧ place.x < m.gridCount) ∧ 0 ≤ place.y ∧ place.y < m.gridCount

instance (m : Scene) (place : GridPos) : Decidable (m.OnBoard place) :=
  inferInstanceAs (Decidable ((_ ∧ _) ∧ _ ∧ _))

def getGrid (m : Scene) (x z : ℚ) : Except AoiError GridPos :=
  if x < m.minX ∨ x ≥ m.maxX ∨ z < m.minZ ∨ z ≥ m.maxZ then
    .error (.outOfScene x z m.minX m.maxX m.minZ m.maxZ)
  else
    let gridX := Cells.toInt (Cells.truncate ((x - m.minX) / m.gridWidth))
    let gridZ := Cells.toInt (Cells.truncate ((z - m.minZ) / m.gridWidth))
    let place : GridPos := ⟨Cells.cut m.gridCount gridX, Cells.cut m.gridCount gridZ⟩
    if m.OnBoard place then .ok place else .error .indexOutOfRange

def getGridPosition (m : Scene) (x z : ℚ) : Except AoiError GridPos :=
  if x < m.minX ∨ x ≥ m.maxX ∨ z < m.minZ ∨ z ≥ m.maxZ then
    .error (.outOfScene x z m.minX m.maxX m.minZ m.maxZ)
  else
    let gridX := Cells.toInt (Cells.truncate ((x - m.minX) / m.gridWidth))
    let gridZ := Cells.toInt (Cells.truncate ((z - m.minZ) / m.gridWidth))
    .ok ⟨Cells.cut m.gridCount gridX, Cells.cut m.gridCount gridZ⟩

end Scene

namespace AOIManager

variable {E : Type}

-- None stands for loops that do not end.
def getSurroundingGridsByRange (m : AOIManager E) (centerGrid : GridPos) (range_ : Int) : Option (List GridPos) :=
  CountingLoops.window GridPos.mk m.gridCount (m.grids centerGrid).gridPos.x (m.grids centerGrid).gridPos.y range_

def getSurroundingGrids (m : AOIManager E) (x z : ℚ) (range_ : Int) : Except AoiError (List GridPos) := do
  let centerGrid ← m.getGrid x z
  match m.getSurroundingGridsByRange centerGrid range_ with
  | some grids => return grids
  | none => .error .endless

def getSurroundingEntities (order : Shuffle E) (view : EntityView E) (m : AOIManager E) (x z : ℚ) (range_ : Int) :
    Except AoiError (List E) := do
  let grids ← m.getSurroundingGrids x z range_
  let entityMap := (∅ : GoMap String E).insertPairs
    ((grids.flatMap fun grid => order.apply (m.grids grid).entities.values).map fun entity => (view.getID entity, entity))
  return order.apply entityMap.values

def distanceSquared (at_ : Position) (x y z : ℚ) : ℚ :=
  (at_.x - x) * (at_.x - x) + (at_.y - y) * (at_.y - y) + (at_.z - z) * (at_.z - z)

def getEntitiesByDistance (order : Shuffle E) (view : EntityView E) (m : AOIManager E) (x y z distance : ℚ) :
    Except AoiError (List E) := do
  let gridRange := Cells.toInt ⌈distance / m.gridWidth⌉
  let surroundingEntities ← m.getSurroundingEntities order view x z gridRange
  return surroundingEntities.filter fun entity => distanceSquared (view.getPosition entity) x y z ≤ distance * distance

def getNearbyPlayers (m : AOIManager E) (x z : ℚ) (range_ : Int) : Except AoiError Int := do
  let grids ← m.getSurroundingGrids x z range_
  return (grids.map fun grid => (m.grids grid).playerCount).sum

def change (m : AOIManager E) (grid : GridPos) (entities : GoMap String E) (playerCount : Int) : AOIManager E :=
  { m with
    grids := fun place =>
      if place = grid then { m.grids place with entities := entities, playerCount := playerCount } else m.grids place
    located := by
      intro place
      by_cases same : place = grid
      · simp only [if_pos same, m.located]
      · simp only [if_neg same, m.located] }

def enter (view : EntityView E) (grid : GridPos) (entity : E) (m : AOIManager E) : AOIManager E :=
  m.change grid ((m.grids grid).entities.insert (view.getID entity) entity)
    ((m.grids grid).playerCount + if view.getTypeID entity = 0 then 1 else 0)

def leave (view : EntityView E) (grid : GridPos) (entity : E) (m : AOIManager E) : AOIManager E :=
  match (m.grids grid).entities.lookup (view.getID entity) with
  | none => m
  | some _ =>
    m.change grid ((m.grids grid).entities.erase (view.getID entity))
      ((m.grids grid).playerCount - if view.getTypeID entity = 0 then 1 else 0)

def addEntity (view : EntityView E) (m : AOIManager E) (entity : E) : Except AoiError Unit × AOIManager E :=
  match m.getGrid (view.getPosition entity).x (view.getPosition entity).z with
  | .error err => (.error err, m)
  | .ok grid => (.ok (), m.enter view grid entity)

def removeEntity (view : EntityView E) (m : AOIManager E) (entity : E) : Except AoiError Unit × AOIManager E :=
  match m.getGrid (view.getPosition entity).x (view.getPosition entity).z with
  | .error err => (.error err, m)
  | .ok grid => (.ok (), m.leave view grid entity)

def gridsToChange (view : EntityView E) (m : AOIManager E) (entity : E) (oldX oldZ : ℚ) :
    Except AoiError (Option (GridPos × GridPos)) := do
  let oldGrid ← m.getGrid oldX oldZ
  let newGrid ← m.getGrid (view.getPosition entity).x (view.getPosition entity).z
  if (m.grids oldGrid).gridPos.x = (m.grids newGrid).gridPos.x ∧
      (m.grids oldGrid).gridPos.y = (m.grids newGrid).gridPos.y then
    return none
  else
    return some (oldGrid, newGrid)

def updateEntity (view : EntityView E) (m : AOIManager E) (entity : E) (oldX oldZ : ℚ) :
    Except AoiError Unit × AOIManager E :=
  match m.gridsToChange view entity oldX oldZ with
  | .error err => (.error err, m)
  | .ok none => (.ok (), m)
  | .ok (some (oldGrid, newGrid)) => (.ok (), (m.leave view oldGrid entity).enter view newGrid entity)

end AOIManager

end MmoServer.Aoi
