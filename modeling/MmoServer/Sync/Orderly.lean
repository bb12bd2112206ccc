import MmoServer.Sync.Concurrent

set_option autoImplicit false

namespace MmoServer.Sync

open Aoi

structure PlayerStateManager.Settled (m : PlayerStateManager) : Prop where
  own : ∀ id player, m.players.lookup id = some player → (m.heap player).ID = id
  home : ∀ id player, m.players.lookup id = some player →
    ∃ home, m.aoiManager.getGrid (m.position player).x (m.position player).z = .ok home ∧
      ∀ grid, m.stored grid id = if grid = home then some player else none
  absent : ∀ id, m.players.lookup id = none → ∀ grid, m.stored grid id = none
  counted : m.aoiManager.Counted

def PlayerStateManager.At (m : PlayerStateManager) (player : PlayerRef) (place : Option GridPos) : Prop :=
  ∀ grid, m.stored grid (m.heap player).ID = if some grid = place then some player else none

namespace Call

def holds (m : PlayerStateManager) : Call → Option GridPos
  | moving player _ => some (m.aoiManager.cell (m.position player))
  | storing player _ _ => some (m.aoiManager.cell (m.position player))
  | updating _ old => some (m.aoiManager.cell old)
  | leaving _ oldGrid _ => some oldGrid
  | entering _ _ => none
  | removing player _ => some (m.aoiManager.cell (m.position player))
  | clearing _ _ grid => some grid
  | deleting _ _ => none

def Fits (m : PlayerStateManager) : Call → Prop
  | moving _ target => m.aoiManager.HasGrid target
  | storing player target old => m.aoiManager.HasGrid target ∧ old = m.position player
  | updating _ old => m.aoiManager.HasGrid old
  | leaving player oldGrid newGrid => newGrid = m.aoiManager.cell (m.position player) ∧ oldGrid ≠ newGrid
  | entering player newGrid => newGrid = m.aoiManager.cell (m.position player)
  | removing player playerID => (m.heap player).ID = playerID
  | clearing player playerID grid => (m.heap player).ID = playerID ∧ grid = m.aoiManager.cell (m.position player)
  | deleting player playerID => (m.heap player).ID = playerID

theorem moving_of_not_started (call : Call) (notYet : call.started = false) : ∃ player target, call = .moving player target := by
  cases call with
  | moving player target => exact ⟨player, target, rfl⟩
  | _ => cases notYet

theorem started_of_unregisters (call : Call) (unregisters : call.unregisters = true) : call.started = true := by
  cases call <;> first | rfl | cases unregisters

section

variable (m after : PlayerStateManager) (call : Call) (scene : after.aoiManager.toScene = m.aoiManager.toScene)
  (same : after.heap call.player = m.heap call.player)

include scene same

theorem fits_frame (fits : call.Fits m) : call.Fits after := by
  cases call <;> simp only [player] at same <;>
    simpa only [Fits, PlayerStateManager.position, scene, same] using fits

theorem holds_frame : call.holds after = call.holds m := by
  cases call <;> simp only [player] at same <;> simp only [holds, PlayerStateManager.position, scene, same]

end

end Call

namespace Server

-- The condition: a move reads its old position while no other call acts on its
-- player, and UnregisterPlayer starts while no move of its player is in progress.
def Apart (s : Server) : Action → Prop
  | .beginMove _ _ _ => True
  | .beginUnregister _ playerID => ∀ other ∈ s.calls.values, (s.manager.heap other.player).ID ≠ playerID
  | .advance call _ => ∀ current ∈ s.calls.lookup call, current.started = false →
      ∀ other ∈ s.calls.values, other.player = current.player → other.started = false

def InSceneMove (s : Server) : Action → Prop
  | .beginMove _ _ target => s.manager.aoiManager.HasGrid target
  | _ => True

structure Orderly (s : Server) : Prop where
  own : ∀ id player, s.manager.players.lookup id = some player → (s.manager.heap player).ID = id
  inside : ∀ id player, s.manager.players.lookup id = some player →
    s.manager.aoiManager.HasGrid (s.manager.position player)
  absent : ∀ id, s.manager.players.lookup id = none → ∀ grid, s.manager.stored grid id = none
  counted : s.manager.aoiManager.Counted
  registered : ∀ call current, s.calls.lookup call = some current →
    s.manager.players.lookup (s.manager.heap current.player).ID = some current.player
  fits : ∀ call current, s.calls.lookup call = some current → current.Fits s.manager
  exclusive : ∀ call current other second, s.calls.lookup call = some current → s.calls.lookup other = some second →
    current.player = second.player → (current.started ∧ second.started) ∨ current.unregisters → call = other
  locked : ∀ call current, s.calls.lookup call = some current → current.unregisters → s.holder = some call
  held : ∀ call current, s.calls.lookup call = some current → current.started →
    s.manager.At current.player (current.holds s.manager)
  quiet : ∀ id player, s.manager.players.lookup id = some player →
    (∀ call current, s.calls.lookup call = some current → current.player = player → current.started = false) →
    s.manager.At player (some (s.manager.aoiManager.cell (s.manager.position player)))

theorem orderly_start (m : PlayerStateManager) (settled : m.Settled) : Orderly { manager := m } where
  own := settled.own
  inside := by
    intro id player found
    obtain ⟨home, accepted, _⟩ := settled.home id player found
    exact ((m.aoiManager.get_grid_ok _ home).mp accepted).1
  absent := settled.absent
  counted := settled.counted
  registered := by simp
  fits := by simp
  exclusive := by simp
  locked := by simp
  held := by simp
  quiet := by
    intro id player found _ grid
    obtain ⟨home, accepted, exactly⟩ := settled.home id player found
    rw [settled.own id player found, exactly grid, ((m.aoiManager.get_grid_ok _ home).mp accepted).2]
    simp

theorem Orderly.settled (s : Server) (orderly : s.Orderly) (finished : s.calls = ∅) : s.manager.Settled where
  own := orderly.own
  home := by
    intro id player found
    refine ⟨_, s.manager.aoiManager.get_grid_inside _ (orderly.inside id player found), ?_⟩
    have placed := orderly.quiet id player found (by simp [finished])
    intro grid
    simpa [orderly.own id player found] using placed grid
  absent := orderly.absent
  counted := orderly.counted

structure Local (m after : PlayerStateManager) (player : PlayerRef) : Prop where
  scene : after.aoiManager.toScene = m.aoiManager.toScene
  players : after.players = m.players
  heap : ∀ other, other ≠ player → after.heap other = m.heap other
  ID : (after.heap player).ID = (m.heap player).ID
  inside : after.aoiManager.HasGrid (after.position player)
  grids : ∀ grid id, id ≠ (m.heap player).ID → after.stored grid id = m.stored grid id
  counted : after.aoiManager.Counted

theorem Local.ids {m after : PlayerStateManager} {player : PlayerRef} (change : Local m after player) (other : PlayerRef) :
    (after.heap other).ID = (m.heap other).ID := by
  by_cases same : other = player
  · rw [same, change.ID]
  · rw [change.heap other same]

def Leads (current : Call) (after : PlayerStateManager) : Option Call → Prop
  | some following => following.player = current.player ∧ following.started ∧ following.Fits after ∧
      following.unregisters = current.unregisters ∧ after.At current.player (following.holds after)
  | none => current.unregisters = false ∧
      after.At current.player (some (after.aoiManager.cell (after.position current.player)))

@[simp] theorem proceed_manager (s : Server) (call : Nat) (after : PlayerStateManager) (following : Option Call) :
    (s.proceed call after following).manager = after := by
  cases following <;> rfl

@[simp] theorem proceed_lookup (s : Server) (call other : Nat) (after : PlayerStateManager) (following : Option Call) :
    (s.proceed call after following).calls.lookup other = if other = call then following else s.calls.lookup other := by
  cases following <;> simp [proceed]

section Proceed

variable {s : Server} {call : Nat} {current : Call} {after : PlayerStateManager} {following : Option Call}
  (orderly : s.Orderly) (here : s.calls.lookup call = some current)
  (alone : ∀ other second, s.calls.lookup other = some second → second.player = current.player → other ≠ call →
    second.started = false)
  (change : Local s.manager after current.player) (leads : Leads current after following)

include orderly here in
theorem other_ids (id : String) (player : PlayerRef) (found : s.manager.players.lookup id = some player)
    (different : player ≠ current.player) : id ≠ (s.manager.heap current.player).ID := by
  intro same
  rw [same, orderly.registered call current here, Option.some_inj] at found
  exact different found.symm

include orderly alone change leads in
theorem proceed_fits (other : Nat) (second : Call)
    (found : (s.proceed call after following).calls.lookup other = some second) : second.Fits after := by
  rw [proceed_lookup] at found
  by_cases same : other = call
  · rw [if_pos same] at found
    subst found
    exact leads.2.2.1
  · rw [if_neg same] at found
    by_cases shared : second.player = current.player
    · obtain ⟨player, target, rfl⟩ := second.moving_of_not_started (alone other second found shared same)
      have fits := orderly.fits other _ found
      rwa [Call.Fits, change.scene]
    · exact second.fits_frame s.manager after change.scene (change.heap _ shared) (orderly.fits other second found)

include orderly here alone leads in
theorem proceed_exclusive (first second : Nat) (one two : Call)
    (foundOne : (s.proceed call after following).calls.lookup first = some one)
    (foundTwo : (s.proceed call after following).calls.lookup second = some two) (shared : one.player = two.player)
    (clash : (one.started ∧ two.started) ∨ one.unregisters) : first = second := by
  rw [proceed_lookup] at foundOne foundTwo
  by_cases isOne : first = call
  · by_cases isTwo : second = call
    · rw [isOne, isTwo]
    · rw [if_pos isOne] at foundOne
      rw [if_neg isTwo] at foundTwo
      subst foundOne
      obtain ⟨samePlayer, _, _, sameKind, _⟩ := leads
      have idle := alone second two foundTwo (shared.symm.trans samePlayer) isTwo
      rcases clash with both | unregisters
      · simp [idle] at both
      · exact isOne.trans (orderly.exclusive call current second two here foundTwo (samePlayer.symm.trans shared)
          (.inr (sameKind.symm.trans unregisters)))
  · rw [if_neg isOne] at foundOne
    by_cases isTwo : second = call
    · rw [if_pos isTwo] at foundTwo
      subst foundTwo
      have idle := alone first one foundOne (shared.trans leads.1) isOne
      rcases clash with both | unregisters
      · simp [idle] at both
      · simp [one.started_of_unregisters unregisters] at idle
    · rw [if_neg isTwo] at foundTwo
      exact orderly.exclusive first one second two foundOne foundTwo shared clash

include orderly here leads in
theorem proceed_locked (other : Nat) (second : Call)
    (found : (s.proceed call after following).calls.lookup other = some second) (unregisters : second.unregisters) :
    (s.proceed call after following).holder = some other := by
  rw [proceed_lookup] at found
  by_cases same : other = call
  · rw [if_pos same] at found
    subst found
    rw [same]
    exact orderly.locked call current here (leads.2.2.2.1.symm.trans unregisters)
  · rw [if_neg same] at found
    have holder := orderly.locked other second found unregisters
    cases following with
    | some next => exact holder
    | none =>
      simp only [proceed, holder]
      rw [if_neg (fun equal => same (Option.some_inj.mp equal))]

include orderly here alone change leads in
theorem proceed_held (other : Nat) (second : Call)
    (found : (s.proceed call after following).calls.lookup other = some second) (started : second.started) :
    after.At second.player (second.holds after) := by
  rw [proceed_lookup] at found
  by_cases same : other = call
  · rw [if_pos same] at found
    subst found
    obtain ⟨samePlayer, _, _, _, exactly⟩ := leads
    rwa [samePlayer]
  · rw [if_neg same] at found
    have different : second.player ≠ current.player := by
      intro shared
      rw [alone other second found shared same] at started
      cases started
    have apart := other_ids orderly here _ second.player (orderly.registered other second found) different
    intro grid
    rw [change.ids, change.grids grid _ apart, second.holds_frame s.manager after change.scene (change.heap _ different)]
    exact orderly.held other second found started grid

include orderly here change leads in
theorem proceed_quiet (id : String) (player : PlayerRef) (found : after.players.lookup id = some player)
    (idle : ∀ other second, (s.proceed call after following).calls.lookup other = some second → second.player = player →
      second.started = false) : after.At player (some (after.aoiManager.cell (after.position player))) := by
  rw [change.players] at found
  by_cases same : player = current.player
  · -- The call has ended, or it would still be at work on its player.
    subst same
    cases following with
    | some next =>
      obtain ⟨samePlayer, started, _⟩ := leads
      have stopped := idle call next (by simp) samePlayer
      rw [started] at stopped
      cases stopped
    | none => exact leads.2
  · intro grid
    have own := orderly.own id player found
    rw [change.ids, own, change.grids grid id (other_ids orderly here id player found same), PlayerStateManager.position,
      change.heap player same, change.scene]
    refine own ▸ orderly.quiet id player found ?_ grid
    intro other second present shared
    refine idle other second ?_ shared
    rw [proceed_lookup, if_neg]
    · exact present
    · intro equal
      rw [equal, here, Option.some_inj] at present
      exact same (shared.symm.trans (congrArg Call.player present.symm))

include orderly here alone change leads in
theorem orderly_proceed : (s.proceed call after following).Orderly where
  own := by
    intro id player found
    rw [proceed_manager, change.players] at found
    rw [proceed_manager, change.ids, orderly.own id player found]
  inside := by
    intro id player found
    rw [proceed_manager, change.players] at found
    rw [proceed_manager]
    by_cases same : player = current.player
    · rw [same]
      exact change.inside
    · rw [PlayerStateManager.position, change.heap player same, change.scene]
      exact orderly.inside id player found
  absent := by
    intro id missing grid
    rw [proceed_manager, change.players] at missing
    rw [proceed_manager, change.grids grid id, orderly.absent id missing grid]
    intro same
    rw [same, orderly.registered call current here] at missing
    cases missing
  counted := by
    rw [proceed_manager]
    exact change.counted
  registered := by
    intro other second found
    rw [proceed_manager, change.players, change.ids]
    rw [proceed_lookup] at found
    by_cases same : other = call
    · rw [if_pos same] at found
      subst found
      rw [leads.1]
      exact orderly.registered call current here
    · rw [if_neg same] at found
      exact orderly.registered other second found
  fits := by
    rw [proceed_manager]
    exact proceed_fits orderly alone change leads
  exclusive := fun first one second two => proceed_exclusive orderly here alone leads first second one two
  locked := proceed_locked orderly here leads
  held := by
    rw [proceed_manager]
    exact proceed_held orderly here alone change leads
  quiet := by
    rw [proceed_manager]
    exact proceed_quiet orderly here change leads

end Proceed

end Server

end MmoServer.Sync
