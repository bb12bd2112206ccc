import MmoServer.Lib.Runs
import MmoServer.Sync.Effects

set_option autoImplicit false

namespace MmoServer.Sync

open Aoi PlayerStateManager

-- A call in progress, by the atomic step it takes next. A call that finds no
-- player returns at once.
inductive Call where
  -- UpdatePlayerPosition: read the old position, store the new one, find both
  -- grids, then the two critical sections.
  | moving (player : PlayerRef) (target : Position)
  | storing (player : PlayerRef) (target old : Position)
  | updating (player : PlayerRef) (old : Position)
  | leaving (player : PlayerRef) (oldGrid newGrid : GridPos)
  | entering (player : PlayerRef) (newGrid : GridPos)
  -- UnregisterPlayer, which holds the manager's lock throughout: find the
  -- grid, its critical section, then the deletions.
  | removing (player : PlayerRef) (playerID : String)
  | clearing (player : PlayerRef) (playerID : String) (grid : GridPos)
  | deleting (player : PlayerRef) (playerID : String)
deriving DecidableEq

namespace Call

def player : Call → PlayerRef
  | moving player _ => player
  | storing player _ _ => player
  | updating player _ => player
  | leaving player _ _ => player
  | entering player _ => player
  | removing player _ => player
  | clearing player _ _ => player
  | deleting player _ => player

def started : Call → Bool
  | moving _ _ => false
  | _ => true

def unregisters : Call → Bool
  | removing _ _ => true
  | clearing _ _ _ => true
  | deleting _ _ => true
  | _ => false

def advance (now : Int) (m : PlayerStateManager) : Call → PlayerStateManager × Option Call
  | moving player target => (m, some (.storing player target (m.position player)))
  | storing player target old => (m.storePosition player target now, some (.updating player old))
  | updating player old =>
    match m.aoiManager.gridsToChange m.heap.view player old.x old.z with
    | .ok (some (oldGrid, newGrid)) => (m, some (.leaving player oldGrid newGrid))
    | _ => (m, none)
  | leaving player oldGrid newGrid =>
    ({ m with aoiManager := m.aoiManager.leave m.heap.view oldGrid player }, some (.entering player newGrid))
  | entering player newGrid => ({ m with aoiManager := m.aoiManager.enter m.heap.view newGrid player }, none)
  | removing player playerID =>
    match m.aoiManager.getGrid (m.position player).x (m.position player).z with
    | .error _ => (m, some (.deleting player playerID))
    | .ok grid => (m, some (.clearing player playerID grid))
  | clearing player playerID grid =>
    ({ m with aoiManager := m.aoiManager.leave m.heap.view grid player }, some (.deleting player playerID))
  | deleting _ playerID => (m.forget playerID, none)

end Call

-- The holder is the UnregisterPlayer call that has the manager's lock.
structure Server where
  manager : PlayerStateManager
  calls : GoMap Nat Call := ∅
  holder : Option Nat := none

inductive Action where
  | beginMove (call : Nat) (playerID : String) (target : Position)
  | beginUnregister (call : Nat) (playerID : String)
  | advance (call : Nat) (now : Int)

namespace Server

def proceed (s : Server) (call : Nat) (after : PlayerStateManager) : Option Call → Server
  | some following => { s with manager := after, calls := s.calls.insert call following }
  | none => { manager := after, calls := s.calls.erase call, holder := if s.holder = some call then none else s.holder }

def step (s : Server) : Action → Option Server
  | .beginMove call playerID target =>
    if s.calls.lookup call ≠ none ∨ s.holder ≠ none then none
    else match s.manager.players.lookup playerID with
      | none => some s
      | some player => some { s with calls := s.calls.insert call (.moving player target) }
  | .beginUnregister call playerID =>
    if s.calls.lookup call ≠ none ∨ s.holder ≠ none then none
    else match s.manager.players.lookup playerID with
      | none => some s
      | some player => some { s with calls := s.calls.insert call (.removing player playerID), holder := some call }
  | .advance call now =>
    match s.calls.lookup call with
    | none => none
    | some current =>
      let (after, following) := current.advance now s.manager
      some (s.proceed call after following)

def only (m : PlayerStateManager) (call : Nat) (current : Call) (holder : Option Nat) : Server :=
  { manager := m, calls := (∅ : GoMap Nat Call).insert call current, holder := holder }

theorem run_only (m after : PlayerStateManager) (call : Nat) (now : Int) (current following : Call)
    (holder : Option Nat) (steps : Nat) (taken : current.advance now m = (after, some following)) :
    Runs.run step (only m call current holder) (List.replicate (steps + 1) (.advance call now)) =
      Runs.run step (only after call following holder) (List.replicate steps (.advance call now)) := by
  simp only [List.replicate_succ, Runs.run, step, only, AList.lookup_insert, taken, proceed, Option.bind_some,
    AList.insert_insert]

theorem finish_only (m after : PlayerStateManager) (call : Nat) (now : Int) (current : Call) (holder : Option Nat)
    (own : holder = none ∨ holder = some call) (taken : current.advance now m = (after, none)) :
    Runs.run step (only m call current holder) (List.replicate 1 (.advance call now)) = some { manager := after } := by
  have emptied : ((∅ : GoMap Nat Call).insert call current).erase call = ∅ := by
    apply AList.eq_empty_of_lookup
    intro other
    rw [AList.lookup_erase_eq, AList.lookup_insert_eq, AList.lookup_empty]
    split <;> rfl
  have released : (if holder = some call then none else holder) = none := by
    rcases own with rfl | rfl <;> simp
  simp only [List.replicate, Runs.run, step, only, AList.lookup_insert, taken, proceed, Option.bind_some, emptied, released]

-- Run alone, the steps of a call are the sequential call.
theorem move_alone (m : PlayerStateManager) (call : Nat) (now : Int) (playerID : String) (target : Position) :
    ∃ steps, Runs.run step { manager := m } (.beginMove call playerID target :: List.replicate steps (.advance call now)) =
      some { manager := (m.updatePlayerPosition now playerID target).2 } := by
  cases found : m.players.lookup playerID with
  | none => exact ⟨0, by simp [Runs.run, step, updatePlayerPosition, getPlayer, found]⟩
  | some player =>
    have begun : ∀ steps, Runs.run step { manager := m }
        (.beginMove call playerID target :: List.replicate (steps + 2) (.advance call now)) =
        Runs.run step (only (m.storePosition player target now) call (.updating player (m.position player)) none)
          (List.replicate steps (.advance call now)) := by
      intro steps
      have first : step { manager := m } (.beginMove call playerID target) =
          some (only m call (.moving player target) none) := by
        simp [step, found, only]
      rw [Runs.run, first, Option.bind_some, run_only _ _ _ _ _ _ _ _ rfl, run_only _ _ _ _ _ _ _ _ rfl]
    have after : (m.updatePlayerPosition now playerID target).2 =
        { m.storePosition player target now with
          aoiManager := ((m.storePosition player target now).aoiManager.updateEntity
            (m.storePosition player target now).heap.view player (m.position player).x (m.position player).z).2 } := by
      simp only [updatePlayerPosition, getPlayer, found]
    rw [after]
    generalize m.storePosition player target now = stored at begun ⊢
    cases grids : stored.aoiManager.gridsToChange stored.heap.view player (m.position player).x (m.position player).z with
    | error err =>
      refine ⟨3, (begun 1).trans ?_⟩
      rw [finish_only stored stored call now _ none (.inl rfl) (by simp only [Call.advance, grids])]
      simp only [AOIManager.updateEntity, grids]
    | ok change =>
      cases change with
      | none =>
        refine ⟨3, (begun 1).trans ?_⟩
        rw [finish_only stored stored call now _ none (.inl rfl) (by simp only [Call.advance, grids])]
        simp only [AOIManager.updateEntity, grids]
      | some pair =>
        obtain ⟨oldGrid, newGrid⟩ := pair
        refine ⟨5, (begun 3).trans ?_⟩
        rw [run_only stored stored call now _ (.leaving player oldGrid newGrid) none 2 (by simp only [Call.advance, grids]),
          run_only _ _ _ _ _ _ _ _ rfl, finish_only _ _ call now _ none (.inl rfl) rfl]
        simp only [AOIManager.updateEntity, grids]

theorem unregister_alone (m : PlayerStateManager) (call : Nat) (now : Int) (playerID : String) :
    ∃ steps, Runs.run step { manager := m } (.beginUnregister call playerID :: List.replicate steps (.advance call now)) =
      some { manager := m.unregisterPlayer playerID } := by
  cases found : m.players.lookup playerID with
  | none => exact ⟨0, by simp [Runs.run, step, unregisterPlayer, found]⟩
  | some player =>
    have first : step { manager := m } (.beginUnregister call playerID) =
        some (only m call (.removing player playerID) (some call)) := by
      simp [step, found, only]
    cases grid : m.aoiManager.getGrid (m.position player).x (m.position player).z with
    | error err =>
      refine ⟨2, ?_⟩
      rw [Runs.run, first, Option.bind_some,
        run_only m m call now _ (.deleting player playerID) (some call) 1 (by simp only [Call.advance, grid]),
        finish_only m _ call now _ (some call) (.inr rfl) rfl]
      simp only [unregisterPlayer, found, AOIManager.removeEntity, view_position, grid]
    | ok place =>
      refine ⟨3, ?_⟩
      rw [Runs.run, first, Option.bind_some,
        run_only m m call now _ (.clearing player playerID place) (some call) 2 (by simp only [Call.advance, grid]),
        run_only _ _ _ _ _ _ _ _ rfl, finish_only _ _ call now _ (some call) (.inr rfl) rfl]
      simp only [unregisterPlayer, found, AOIManager.removeEntity, view_position, grid]

end Server

end MmoServer.Sync
