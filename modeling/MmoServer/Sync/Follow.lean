import MmoServer.Aoi.DistanceQuery
import MmoServer.Lib.Runs
import MmoServer.Sync.Effects

set_option autoImplicit false

namespace MmoServer.Sync

open Aoi

def Command.playerID : Command → String
  | .register _ playerID => playerID
  | .move _ playerID _ => playerID
  | .unregister playerID => playerID

namespace PlayerStateManager

-- If the id is registered and GetGrid accepts its position, that grid holds it.
def FollowsAt (m : PlayerStateManager) (id : String) : Prop :=
  ∀ player home, m.players.lookup id = some player →
    m.aoiManager.getGrid (m.position player).x (m.position player).z = .ok home →
    ∀ grid, m.stored grid id = if grid = home then some player else none

def Follows (m : PlayerStateManager) : Prop := ∀ id, m.FollowsAt id

-- An id without a registration is in no grid, and no query returns it.
def AbsentAt (m : PlayerStateManager) (id : String) : Prop :=
  m.players.lookup id = none → ∀ grid, m.stored grid id = none

def NoGhosts (m : PlayerStateManager) : Prop :=
  ∀ id, m.players.lookup id = none →
    (∀ grid, m.stored grid id = none) ∧
    (∀ order x z range_ found, m.aoiManager.getSurroundingEntities order m.heap.view x z range_ = .ok found →
      ∀ player ∈ found, (m.heap player).ID ≠ id) ∧
    (∀ order x y z distance found, m.aoiManager.getEntitiesByDistance order m.heap.view x y z distance = .ok found →
      ∀ player ∈ found, (m.heap player).ID ≠ id)

structure SameFor (m after : PlayerStateManager) (other : String) : Prop where
  players : after.players.lookup other = m.players.lookup other
  position : ∀ player, m.players.lookup other = some player → after.position player = m.position player
  grids : ∀ grid, after.stored grid other = m.stored grid other
  scene : after.aoiManager.toScene = m.aoiManager.toScene

variable (m : PlayerStateManager) (command : Command)

theorem execute_frame (consistent : m.Consistent) (command : Command) (other : String) (different : other ≠ command.playerID) :
    SameFor m (execute m command) other := by
  have effect := execute_effect m consistent command
  generalize execute m command = after at effect ⊢
  cases effect with
  | registered now id _ absent change =>
    rw [Command.playerID] at different
    refine ⟨?_, ?_, ?_, change.scene⟩
    · rw [change.players, if_neg different]
    · intro player found
      rw [position, change.heap player (Nat.ne_of_lt (consistent.players other player found).1)]
    · intro grid
      rw [change.grids, if_neg (fun both => different both.2)]
  | moved now id player target _ present change =>
    refine ⟨by rw [change.players], ?_, ?_, change.scene⟩
    · intro reference found
      have apart : reference ≠ player := fun same => different (consistent.distinct found (same ▸ present))
      rw [position, change.heap reference apart]
    · intro grid
      rw [change.grids, if_neg (fun both => different both.2)]
  | unregistered id player _ present change =>
    rw [Command.playerID] at different
    refine ⟨?_, ?_, ?_, change.scene⟩
    · rw [change.players, if_neg different]
    · intro reference _
      rw [position, change.heap]
    · intro grid
      rw [change.grids, if_neg (fun both => different both.2)]
  | again | lost | unknown => exact ⟨rfl, fun _ _ => rfl, fun _ => rfl, rfl⟩

section

variable {m after : PlayerStateManager} {other : String} (same : SameFor m after other)

include same

theorem SameFor.follows (before : m.FollowsAt other) : after.FollowsAt other := by
  intro player home found accepted grid
  rw [same.players] at found
  rw [same.position player found, same.scene] at accepted
  rw [same.grids, before player home found accepted grid]

theorem SameFor.absent (before : m.AbsentAt other) : after.AbsentAt other := by
  intro missing grid
  rw [same.grids, before (same.players ▸ missing) grid]

end

-- A registration finds no leftover of its id outside the grid of the origin, and
-- a player comes back into the scene at the one grid that still holds it.
def KeepsIndex (m : PlayerStateManager) : Command → Prop
  | .register _ id => m.players.lookup id = none → ∀ grid, grid ≠ m.aoiManager.cell origin → m.stored grid id = none
  | .move _ id target => ∀ player, m.players.lookup id = some player → ¬ m.aoiManager.HasGrid (m.position player) →
      m.aoiManager.HasGrid target → ∀ grid, m.stored grid id = if grid = m.aoiManager.cell target then some player else none
  | .unregister _ => True

theorem registered_follows_iff {m after : PlayerStateManager} {id : String} (consistent : m.Consistent)
    (change : Registered m after id) :
    after.FollowsAt id ↔ ∀ grid, grid ≠ m.aoiManager.cell origin → m.stored grid id = none := by
  have found : after.players.lookup id = some m.next := by rw [change.players, if_pos rfl]
  have accepted : after.aoiManager.getGrid (after.position m.next).x (after.position m.next).z =
      .ok (m.aoiManager.cell origin) := by
    rw [change.fresh.2, change.scene, Scene.get_grid_inside _ origin consistent.origin_inside]
  constructor
  · intro follows grid elsewhere
    have exactly := follows m.next _ found accepted grid
    rwa [if_neg elsewhere, change.grids, if_neg (fun both => elsewhere both.1)] at exactly
  · intro clean player home present homeFound grid
    rw [found] at present
    cases present
    rw [accepted] at homeFound
    cases homeFound
    rw [change.grids]
    by_cases here : grid = m.aoiManager.cell origin
    · rw [if_pos ⟨here, rfl⟩, if_pos here]
    · rw [if_neg (fun both => here both.1), if_neg here, clean grid here]

theorem moved_follows_iff {m after : PlayerStateManager} {id : String} {player : PlayerRef} {target : Position}
    (present : m.players.lookup id = some player) (before : m.FollowsAt id) (change : Moved m after id player target) :
    after.FollowsAt id ↔ (¬ m.aoiManager.HasGrid (m.position player) → m.aoiManager.HasGrid target →
      ∀ grid, m.stored grid id = if grid = m.aoiManager.cell target then some player else none) := by
  have found : after.players.lookup id = some player := by rw [change.players, present]
  have pinned : after.FollowsAt id ↔ (m.aoiManager.HasGrid target →
      ∀ grid, after.stored grid id = if grid = m.aoiManager.cell target then some player else none) := by
    constructor
    · intro follows inside
      refine follows player _ found ?_
      rw [change.here.2, change.scene, Scene.get_grid_inside _ target inside]
    · intro exactly reference home registered accepted
      rw [found] at registered
      cases registered
      rw [change.here.2, change.scene, Scene.get_grid_ok] at accepted
      obtain ⟨inside, rfl⟩ := accepted
      exact exactly inside
  rw [pinned]
  by_cases outside : m.aoiManager.HasGrid (m.position player)
  · -- The index held the player at its old position, so the two grid updates
    -- leave it in the new cell only.
    refine iff_of_true ?_ (fun wasOutside => absurd outside wasOutside)
    intro inside grid
    have old := before player _ present (Scene.get_grid_inside _ _ outside) grid
    rw [change.grids, old]
    by_cases same : m.aoiManager.cell (m.position player) = m.aoiManager.cell target
    · rw [if_neg (fun both => both.1.2.2 same), same]
    · rw [if_pos ⟨⟨outside, inside, same⟩, rfl⟩]
      split <;> simp_all
  · have untouched : ∀ grid, after.stored grid id = m.stored grid id := by
      intro grid
      rw [change.grids, if_neg (fun both => outside both.1.1)]
    simp only [untouched, outside, not_false_eq_true, true_implies]

theorem follows_execute_iff (consistent : m.Consistent) (before : m.Follows) : (execute m command).Follows ↔ m.KeepsIndex command := by
  have others : (execute m command).Follows ↔ (execute m command).FollowsAt command.playerID := by
    refine ⟨fun all => all _, fun here id => ?_⟩
    by_cases same : id = command.playerID
    · exact same ▸ here
    · exact (execute_frame m consistent command id same).follows (before id)
  rw [others]
  have effect := execute_effect m consistent command
  generalize execute m command = after at effect ⊢
  cases effect with
  | registered now id _ absent change =>
    rw [Command.playerID, registered_follows_iff consistent change]
    simp only [KeepsIndex, absent, true_implies]
  | moved now id player target _ present change =>
    rw [Command.playerID, moved_follows_iff present (before id) change]
    simp only [KeepsIndex, present, Option.some_inj, forall_eq']
  | unregistered id player _ present change =>
    refine iff_of_true ?_ trivial
    intro reference home found
    rw [Command.playerID, change.players, if_pos rfl] at found
    cases found
  | again now id player present => exact iff_of_true (before id) (fun absent => by simp [present] at absent)
  | lost now id target absent => exact iff_of_true (before id) (fun player present => by simp [absent] at present)
  | unknown id absent => exact iff_of_true (before id) trivial

-- A player is unregistered when no grid but that of its position holds it.
def LeavesNoGhost (m : PlayerStateManager) : Command → Prop
  | .unregister id => ∀ player, m.players.lookup id = some player → ∀ grid, m.stored grid id ≠ none →
      m.aoiManager.HasGrid (m.position player) ∧ grid = m.aoiManager.cell (m.position player)
  | _ => True

theorem no_ghosts_iff (consistent : m.Consistent) : m.NoGhosts ↔ ∀ id, m.AbsentAt id := by
  constructor
  · intro clean id missing
    exact (clean id missing).1
  · intro absent id missing
    have unseen : ∀ player, m.aoiManager.Indexed player → (m.heap player).ID ≠ id := by
      rintro player ⟨grid, key, held⟩ own
      have same : key = id := (consistent.grids grid key player held).2.symm.trans own
      have nowhere := absent id missing grid
      rw [stored, ← same, held] at nowhere
      cases nowhere
    refine ⟨absent id missing, ?_, ?_⟩
    · intro order x z range_ found answered player member
      exact unseen player (AOIManager.surrounding_entities_indexed order _ _ x z range_ found answered player member)
    · intro order x y z distance found answered player member
      exact unseen player (AOIManager.distance_entities_indexed order _ _ x y z distance found answered player member)

theorem absent_execute_iff (consistent : m.Consistent) (before : ∀ id, m.AbsentAt id) :
    (∀ id, (execute m command).AbsentAt id) ↔ m.LeavesNoGhost command := by
  have others : (∀ id, (execute m command).AbsentAt id) ↔ (execute m command).AbsentAt command.playerID := by
    refine ⟨fun all => all _, fun here id => ?_⟩
    by_cases same : id = command.playerID
    · exact same ▸ here
    · exact (execute_frame m consistent command id same).absent (before id)
  rw [others]
  have effect := execute_effect m consistent command
  generalize execute m command = after at effect ⊢
  cases effect with
  | registered now id _ absent change =>
    refine iff_of_true ?_ trivial
    intro missing
    rw [Command.playerID, change.players, if_pos rfl] at missing
    cases missing
  | moved now id player target _ present change =>
    refine iff_of_true ?_ trivial
    intro missing
    rw [Command.playerID, change.players, present] at missing
    cases missing
  | unregistered id player _ present change =>
    have missing : after.players.lookup id = none := by rw [change.players, if_pos rfl]
    simp only [AbsentAt, Command.playerID, missing, true_implies, change.grids, and_true, LeavesNoGhost, present,
      Option.some_inj, forall_eq', ite_eq_left_iff]
    exact forall_congr' fun grid => by rw [← not_imp_not, not_not]
  | again now id player present | lost now id target absent => exact iff_of_true (before id) trivial
  | unknown id absent => exact iff_of_true (before id) (fun player present => by simp [absent] at present)

theorem new_follows : newPlayerStateManager.Follows := by
  intro id player home found
  simp [newPlayerStateManager] at found

theorem new_absent (id : String) : newPlayerStateManager.AbsentAt id := by
  intro missing grid
  exact AOIManager.stored_new _ _ _ _ _ _ grid id

theorem index_follows_run_iff (commands : List Command) :
    (∀ m ∈ Runs.visited execute newPlayerStateManager commands, m.Follows) ↔
      Runs.Meets execute KeepsIndex newPlayerStateManager commands :=
  Runs.visited_iff_meets execute Consistent Follows KeepsIndex execute_consistent follows_execute_iff
    newPlayerStateManager commands consistent_new new_follows

theorem no_ghosts_execute_iff (consistent : m.Consistent) (before : m.NoGhosts) :
    (execute m command).NoGhosts ↔ m.LeavesNoGhost command := by
  rw [no_ghosts_iff _ (execute_consistent m command consistent)]
  exact absent_execute_iff m command consistent ((no_ghosts_iff m consistent).mp before)

theorem no_ghosts_run_iff (commands : List Command) :
    (∀ m ∈ Runs.visited execute newPlayerStateManager commands, m.NoGhosts) ↔
      Runs.Meets execute LeavesNoGhost newPlayerStateManager commands :=
  Runs.visited_iff_meets execute Consistent NoGhosts LeavesNoGhost execute_consistent no_ghosts_execute_iff
    newPlayerStateManager commands consistent_new ((no_ghosts_iff _ consistent_new).mpr new_absent)

def strayRun : List Command := [.register 0 "p", .move 1 "p" ⟨2000, 0, 0⟩, .move 2 "p" ⟨120, 0, 120⟩]

theorem returning_player_not_indexed :
    ∃ m ∈ Runs.visited execute newPlayerStateManager strayRun,
      m.players.lookup "p" = some 0 ∧
      m.aoiManager.getGrid (m.position 0).x (m.position 0).z = .ok ⟨2, 2⟩ ∧
      m.stored ⟨2, 2⟩ "p" = none ∧ m.stored ⟨0, 0⟩ "p" = some 0 ∧ ¬ m.Follows := by
  have final : strayRun.foldl execute newPlayerStateManager ∈ Runs.visited execute newPlayerStateManager strayRun := by
    simp [strayRun, Runs.visited]
  have registered : (strayRun.foldl execute newPlayerStateManager).players.lookup "p" = some 0 := by decide +kernel
  have home : (strayRun.foldl execute newPlayerStateManager).aoiManager.getGrid 120 120 = .ok ⟨2, 2⟩ := by
    decide +kernel
  have missing : (strayRun.foldl execute newPlayerStateManager).stored ⟨2, 2⟩ "p" = none := by decide +kernel
  refine ⟨_, final, registered, home, missing, by decide +kernel, ?_⟩
  intro follows
  have held := follows "p" 0 ⟨2, 2⟩ registered home ⟨2, 2⟩
  rw [missing, if_pos rfl] at held
  cases held

def ghostRun : List Command := [.register 0 "p", .move 1 "p" ⟨-1, 0, 0⟩, .unregister "p"]

theorem unregistered_player_returned :
    ∃ m ∈ Runs.visited execute newPlayerStateManager ghostRun,
      m.players.lookup "p" = none ∧ m.stored ⟨0, 0⟩ "p" = some 0 ∧ (m.heap 0).ID = "p" ∧
      m.aoiManager.getSurroundingEntities Shuffle.listed m.heap.view 0 0 0 = .ok [0] ∧
      m.aoiManager.getEntitiesByDistance Shuffle.listed m.heap.view 0 0 0 100 = .ok [0] ∧ ¬ m.NoGhosts := by
  have final : ghostRun.foldl execute newPlayerStateManager ∈ Runs.visited execute newPlayerStateManager ghostRun := by
    simp [ghostRun, Runs.visited]
  have missing : (ghostRun.foldl execute newPlayerStateManager).players.lookup "p" = none := by decide +kernel
  have held : (ghostRun.foldl execute newPlayerStateManager).stored ⟨0, 0⟩ "p" = some 0 := by decide +kernel
  refine ⟨_, final, missing, held, by decide +kernel, by decide +kernel, by decide +kernel, ?_⟩
  intro clean
  have nowhere := (clean "p" missing).1 ⟨0, 0⟩
  rw [held] at nowhere
  cases nowhere

end PlayerStateManager

end MmoServer.Sync
