import MmoServer.Sync.PlayerState

set_option autoImplicit false

namespace MmoServer.Sync

open Aoi

@[simp] theorem write_read (heap : PlayerHeap) (player other : PlayerRef) (state : PlayerState) :
    heap.write player state other = if other = player then state else heap other := rfl

@[simp] theorem view_id (heap : PlayerHeap) (player : PlayerRef) : heap.view.getID player = (heap player).ID := rfl

@[simp] theorem view_position (heap : PlayerHeap) (player : PlayerRef) :
    heap.view.getPosition player = (heap player).position := rfl

namespace PlayerStateManager

abbrev stored (m : PlayerStateManager) (grid : GridPos) (id : String) : Option PlayerRef := m.aoiManager.stored grid id

abbrev position (m : PlayerStateManager) (player : PlayerRef) : Position := (m.heap player).position

-- References are used with the id they were created for, cells below next only.
structure Consistent (m : PlayerStateManager) : Prop where
  scene : m.aoiManager.toScene = newPlayerStateManager.aoiManager.toScene
  players : ∀ id player, m.players.lookup id = some player → player < m.next ∧ (m.heap player).ID = id
  grids : ∀ grid id player, m.stored grid id = some player → player < m.next ∧ (m.heap player).ID = id

theorem consistent_new : newPlayerStateManager.Consistent where
  scene := rfl
  players := by simp [newPlayerStateManager]
  grids := by simp [stored, newPlayerStateManager]

theorem Consistent.distinct {m : PlayerStateManager} (consistent : m.Consistent) {id other : String} {player : PlayerRef}
    (registered : m.players.lookup id = some player) (also : m.players.lookup other = some player) : id = other := by
  rw [← (consistent.players id player registered).2, (consistent.players other player also).2]

theorem Consistent.origin_inside {m : PlayerStateManager} (consistent : m.Consistent) : m.aoiManager.HasGrid origin := by
  rw [consistent.scene]
  decide +kernel

structure Registered (m after : PlayerStateManager) (id : String) : Prop where
  next : after.next = m.next + 1
  heap : ∀ player, player ≠ m.next → after.heap player = m.heap player
  fresh : (after.heap m.next).ID = id ∧ after.position m.next = origin
  players : ∀ other, after.players.lookup other = if other = id then some m.next else m.players.lookup other
  grids : ∀ grid other, after.stored grid other =
    if grid = m.aoiManager.cell origin ∧ other = id then some m.next else m.stored grid other
  scene : after.aoiManager.toScene = m.aoiManager.toScene

variable (now : Int) (id : String) (player : PlayerRef) (m : PlayerStateManager)

theorem register_effect (consistent : m.Consistent) (absent : m.players.lookup id = none) :
    Registered m (m.registerPlayer now id).2 id := by
  have inside := consistent.origin_inside
  simp only [registerPlayer, absent, AOIManager.add_entity_eq]
  constructor <;> simp +contextual [newPlayerState, inside, position, stored]

theorem register_again (registered : m.players.lookup id = some player) : m.registerPlayer now id = (player, m) := by
  simp only [registerPlayer, registered]

structure Moved (m after : PlayerStateManager) (id : String) (player : PlayerRef) (target : Position) : Prop where
  next : after.next = m.next
  heap : ∀ other, other ≠ player → after.heap other = m.heap other
  here : (after.heap player).ID = (m.heap player).ID ∧ after.position player = target
  players : after.players = m.players
  grids : ∀ grid other, after.stored grid other =
    if (m.aoiManager.HasGrid (m.position player) ∧ m.aoiManager.HasGrid target ∧
        m.aoiManager.cell (m.position player) ≠ m.aoiManager.cell target) ∧ other = id then
      if grid = m.aoiManager.cell target then some player
      else if grid = m.aoiManager.cell (m.position player) then none else m.stored grid other
    else m.stored grid other
  scene : after.aoiManager.toScene = m.aoiManager.toScene

theorem move_effect (target : Position) (m : PlayerStateManager) (consistent : m.Consistent)
    (registered : m.players.lookup id = some player) : Moved m (m.updatePlayerPosition now id target).2 id player target := by
  have own := (consistent.players id player registered).2
  have updated : (m.updatePlayerPosition now id target).2 =
      { m.storePosition player target now with
        aoiManager := (m.aoiManager.updateEntity (m.storePosition player target now).heap.view player
          (m.position player).x (m.position player).z).2 } := by
    simp only [updatePlayerPosition, getPlayer, registered, storePosition, storeUpdate]
  rw [updated, AOIManager.update_entity_eq]
  by_cases crosses : m.aoiManager.HasGrid (m.position player) ∧ m.aoiManager.HasGrid target ∧
      m.aoiManager.cell (m.position player) ≠ m.aoiManager.cell target
  · constructor <;> simp +contextual [storePosition, storeUpdate, position, stored, crosses, own]
    intro grid other
    by_cases same : other = id <;> simp [same]
  · constructor <;> simp +contextual [storePosition, storeUpdate, position, stored, crosses]

structure Unregistered (m after : PlayerStateManager) (id : String) (player : PlayerRef) : Prop where
  next : after.next = m.next
  heap : after.heap = m.heap
  players : ∀ other, after.players.lookup other = if other = id then none else m.players.lookup other
  grids : ∀ grid other, after.stored grid other =
    if (m.aoiManager.HasGrid (m.position player) ∧ grid = m.aoiManager.cell (m.position player)) ∧ other = id then none
    else m.stored grid other
  scene : after.aoiManager.toScene = m.aoiManager.toScene

theorem unregister_effect (consistent : m.Consistent) (registered : m.players.lookup id = some player) :
    Unregistered m (m.unregisterPlayer id) id player := by
  have own := (consistent.players id player registered).2
  simp only [unregisterPlayer, forget, registered, AOIManager.remove_entity_eq]
  by_cases inside : m.aoiManager.HasGrid (m.position player)
  · constructor <;> simp [position, stored, inside, own]
  · constructor <;> simp [position, stored, inside]

inductive Effect (m : PlayerStateManager) : Command → PlayerStateManager → Prop where
  | registered (now : Int) (id : String) (after : PlayerStateManager) (absent : m.players.lookup id = none)
      (change : Registered m after id) : Effect m (.register now id) after
  | again (now : Int) (id : String) (player : PlayerRef) (present : m.players.lookup id = some player) :
      Effect m (.register now id) m
  | moved (now : Int) (id : String) (player : PlayerRef) (target : Position) (after : PlayerStateManager)
      (present : m.players.lookup id = some player) (change : Moved m after id player target) :
      Effect m (.move now id target) after
  | lost (now : Int) (id : String) (target : Position) (absent : m.players.lookup id = none) :
      Effect m (.move now id target) m
  | unregistered (id : String) (player : PlayerRef) (after : PlayerStateManager)
      (present : m.players.lookup id = some player) (change : Unregistered m after id player) :
      Effect m (.unregister id) after
  | unknown (id : String) (absent : m.players.lookup id = none) : Effect m (.unregister id) m

theorem execute_effect (consistent : m.Consistent) (command : Command) : Effect m command (execute m command) := by
  cases command with
  | register now id =>
    cases found : m.players.lookup id with
    | none => exact .registered now id _ found (register_effect now id m consistent found)
    | some player =>
      rw [execute, register_again now id player m found]
      exact .again now id player found
  | move now id target =>
    cases found : m.players.lookup id with
    | none =>
      have same : execute m (.move now id target) = m := by
        simp only [execute, updatePlayerPosition, getPlayer, found]
      rw [same]
      exact .lost now id target found
    | some player => exact .moved now id player target _ found (move_effect now id player target m consistent found)
  | unregister id =>
    cases found : m.players.lookup id with
    | none =>
      have same : execute m (.unregister id) = m := by simp only [execute, unregisterPlayer, found]
      rw [same]
      exact .unknown id found
    | some player => exact .unregistered id player _ found (unregister_effect id player m consistent found)

section

variable {m after : PlayerStateManager} {id : String}

theorem Registered.consistent (change : Registered m after id) (consistent : m.Consistent) : after.Consistent := by
  have kept : ∀ player other, player < m.next ∧ (m.heap player).ID = other →
      player < after.next ∧ (after.heap player).ID = other := by
    intro player other ⟨bound, own⟩
    rw [change.next, change.heap player (Nat.ne_of_lt bound)]
    exact ⟨Nat.lt_succ_of_lt bound, own⟩
  have fresh : m.next < after.next ∧ (after.heap m.next).ID = id := 
    ⟨change.next.symm ▸ Nat.lt_succ_self m.next, change.fresh.1⟩
  refine ⟨change.scene.trans consistent.scene, ?_, ?_⟩
  · intro other player found
    rw [change.players] at found
    split at found
    · rename_i same
      cases found
      exact same.symm ▸ fresh
    · exact kept player other (consistent.players other player found)
  · intro grid other player held
    rw [change.grids] at held
    split at held
    · rename_i same
      cases held
      exact same.2.symm ▸ fresh
    · exact kept player other (consistent.grids grid other player held)

theorem Moved.consistent {player : PlayerRef} {target : Position} (change : Moved m after id player target) (consistent : m.Consistent)
    (present : m.players.lookup id = some player) : after.Consistent := by
  have kept : ∀ other owner, other < m.next ∧ (m.heap other).ID = owner →
      other < after.next ∧ (after.heap other).ID = owner := by
    intro other owner ⟨bound, own⟩
    refine ⟨change.next.symm ▸ bound, ?_⟩
    by_cases same : other = player
    · rw [same, change.here.1, ← same, own]
    · rw [change.heap other same, own]
  refine ⟨change.scene.trans consistent.scene, ?_, ?_⟩
  · intro other reference found
    rw [change.players] at found
    exact kept reference other (consistent.players other reference found)
  · intro grid other reference held
    rw [change.grids] at held
    split at held
    · rename_i crossed
      split at held
      · cases held
        exact kept player other (crossed.2 ▸ consistent.players id player present)
      · split at held
        · cases held
        · exact kept reference other (consistent.grids grid other reference held)
    · exact kept reference other (consistent.grids grid other reference held)

theorem Unregistered.consistent {player : PlayerRef} (change : Unregistered m after id player) (consistent : m.Consistent) :
    after.Consistent := by
  refine ⟨change.scene.trans consistent.scene, ?_, ?_⟩
  · intro other reference found
    rw [change.players] at found
    split at found
    · cases found
    · rw [change.next, change.heap]
      exact consistent.players other reference found
  · intro grid other reference held
    rw [change.grids] at held
    split at held
    · cases held
    · rw [change.next, change.heap]
      exact consistent.grids grid other reference held

end

theorem execute_consistent (command : Command) (consistent : m.Consistent) : (execute m command).Consistent := by
  have effect := execute_effect m consistent command
  generalize execute m command = after at effect ⊢
  cases effect with
  | registered _ _ _ _ change | unregistered _ _ _ _ change => exact change.consistent consistent
  | moved _ _ _ _ _ present change => exact change.consistent consistent present
  | again => exact consistent
  | lost => exact consistent
  | unknown => exact consistent

end PlayerStateManager

end MmoServer.Sync
