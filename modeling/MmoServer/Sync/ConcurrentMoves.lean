import MmoServer.Sync.OrderlySteps

set_option autoImplicit false

namespace MmoServer.Sync

open Aoi

namespace PlayerStateManager

theorem new_settled : newPlayerStateManager.Settled where
  own := by simp [newPlayerStateManager]
  home := by simp [newPlayerStateManager]
  absent := fun id _ grid => AOIManager.stored_new _ _ _ _ _ _ grid id
  counted := fun _ => rfl

theorem register_settled (now : Int) (id : String) (m : PlayerStateManager) (consistent : m.Consistent)
    (settled : m.Settled) : (m.registerPlayer now id).2.Settled := by
  cases found : m.players.lookup id with
  | some player =>
    rw [register_again now id player m found]
    exact settled
  | none =>
    have change := register_effect now id m consistent found
    have name : (m.heap.write m.next (newPlayerState now id)).view.getID m.next = id := by simp [newPlayerState]
    have counted : (m.registerPlayer now id).2.aoiManager.Counted := by
      simp only [registerPlayer, found, AOIManager.add_entity_eq]
      split
      · exact AOIManager.enter_counted _ _ _ _ rfl (by rw [name]; exact settled.absent id found _) settled.counted
      · exact settled.counted
    refine ⟨fun other player present => ((change.consistent consistent).players other player present).2, ?_, ?_, counted⟩
    · intro other player present
      rw [change.players] at present
      by_cases same : other = id
      · rw [if_pos same, Option.some_inj] at present
        subst present same
        refine ⟨m.aoiManager.cell origin, ?_, ?_⟩
        · rw [change.fresh.2, change.scene, Scene.get_grid_inside _ origin consistent.origin_inside]
        · intro grid
          rw [change.grids, settled.absent other found grid]
          simp
      · rw [if_neg same] at present
        obtain ⟨home, accepted, exactly⟩ := settled.home other player present
        refine ⟨home, ?_, ?_⟩
        · rw [position, change.heap player (Nat.ne_of_lt (consistent.players other player present).1), change.scene]
          exact accepted
        · intro grid
          rw [change.grids, if_neg (fun both => same both.2), exactly grid]
    · intro other missing grid
      rw [change.players] at missing
      by_cases same : other = id
      · simp [same] at missing
      · rw [if_neg same] at missing
        rw [change.grids, if_neg (fun both => same both.2), settled.absent other missing grid]

end PlayerStateManager

namespace Server

theorem finished_server_settled (m : PlayerStateManager) (settled : m.Settled) (s : Server)
    (reached : Runs.Reached step (fun s action => s.InSceneMove action ∧ s.Apart action) { manager := m } s)
    (finished : s.calls = ∅) : s.manager.Settled :=
  Orderly.settled s (Runs.reached_invariant _ _ Orderly _ s (orderly_start m settled) step_orderly reached) finished

instance (s : Server) : (action : Action) → Decidable (s.InSceneMove action)
  | .beginMove _ _ target => inferInstanceAs (Decidable (s.manager.aoiManager.HasGrid target))
  | .beginUnregister _ _ => inferInstanceAs (Decidable True)
  | .advance _ _ => inferInstanceAs (Decidable True)

instance (s : Server) : (action : Action) → Decidable (s.Apart action)
  | .beginMove _ _ _ => inferInstanceAs (Decidable True)
  | .beginUnregister _ playerID =>
    inferInstanceAs (Decidable (∀ other ∈ s.calls.values, (s.manager.heap other.player).ID ≠ playerID))
  | .advance call _ =>
    inferInstanceAs (Decidable (∀ current ∈ s.calls.lookup call, current.started = false →
      ∀ other ∈ s.calls.values, other.player = current.player → other.started = false))

def twoPlayers : PlayerStateManager := execute (execute newPlayerStateManager (.register 0 "p")) (.register 0 "q")

theorem two_players_settled : twoPlayers.Settled := by
  have first := PlayerStateManager.consistent_new
  exact PlayerStateManager.register_settled 0 "q" _ (PlayerStateManager.execute_consistent _ (.register 0 "p") first)
    (PlayerStateManager.register_settled 0 "p" _ first PlayerStateManager.new_settled)

def crossingRun : List Action :=
  [.beginMove 0 "p" ⟨120, 0, 0⟩, .beginMove 1 "q" ⟨0, 0, 220⟩] ++
    (List.replicate 5 [.advance 0 1, .advance 1 1]).flatten ++
    [.beginUnregister 2 "q", .advance 2 1, .advance 2 1, .advance 2 1]

theorem crossing_run_settles :
    ∃ s, Runs.run step { manager := twoPlayers } crossingRun = some s ∧ s.calls = ∅ ∧
      s.manager.players.lookup "q" = none ∧ s.manager.stored ⟨2, 0⟩ "p" = some 0 ∧ s.manager.Settled := by
  have observed : (Runs.run step { manager := twoPlayers } crossingRun).map (fun s =>
      (s.calls.entries, s.manager.players.lookup "q", s.manager.stored ⟨2, 0⟩ "p")) = some ([], none, some 0) := by
    decide +kernel
  obtain ⟨s, ran, seen⟩ := Option.map_eq_some_iff.mp observed
  obtain ⟨entries, gone, there⟩ : s.calls.entries = [] ∧ s.manager.players.lookup "q" = none ∧
      s.manager.stored ⟨2, 0⟩ "p" = some 0 := by simpa using seen
  have finished : s.calls = ∅ := AList.ext entries
  refine ⟨s, ran, finished, gone, there, ?_⟩
  exact finished_server_settled twoPlayers two_players_settled s
    (Runs.reached_of_run step _ _ _ s crossingRun .start (by decide +kernel) ran) finished

def racingMoves : List Action :=
  [.beginMove 0 "p" ⟨120, 0, 0⟩, .beginMove 1 "p" ⟨220, 0, 0⟩, .advance 0 1, .advance 1 1, .advance 0 1, .advance 0 1,
    .advance 1 1, .advance 1 1, .advance 0 1, .advance 0 1, .advance 1 1, .advance 1 1]

def racingLogout : List Action :=
  [.beginMove 0 "p" ⟨120, 0, 0⟩, .advance 0 1, .beginUnregister 1 "p", .advance 1 1, .advance 1 1, .advance 1 1,
    .advance 0 1, .advance 0 1, .advance 0 1, .advance 0 1]

theorem racing_calls_misplace_player :
    (Runs.RunMeets step InSceneMove { manager := twoPlayers } racingMoves ∧
      ∃ s, Runs.run step { manager := twoPlayers } racingMoves = some s ∧ s.calls = ∅ ∧
        s.manager.players.lookup "p" = some 0 ∧ s.manager.stored ⟨2, 0⟩ "p" = some 0 ∧
        s.manager.stored ⟨4, 0⟩ "p" = some 0 ∧ ¬ s.manager.Settled) ∧
    (Runs.RunMeets step InSceneMove { manager := twoPlayers } racingLogout ∧
      ∃ s, Runs.run step { manager := twoPlayers } racingLogout = some s ∧ s.calls = ∅ ∧
        s.manager.players.lookup "p" = none ∧ s.manager.stored ⟨2, 0⟩ "p" = some 0 ∧ ¬ s.manager.Settled) := by
  constructor
  · have observed : (Runs.run step { manager := twoPlayers } racingMoves).map (fun s =>
        (s.calls.entries, s.manager.players.lookup "p", s.manager.stored ⟨2, 0⟩ "p", s.manager.stored ⟨4, 0⟩ "p")) =
        some ([], some 0, some 0, some 0) := by
      decide +kernel
    obtain ⟨s, ran, seen⟩ := Option.map_eq_some_iff.mp observed
    obtain ⟨entries, present, first, second⟩ : s.calls.entries = [] ∧ s.manager.players.lookup "p" = some 0 ∧
        s.manager.stored ⟨2, 0⟩ "p" = some 0 ∧ s.manager.stored ⟨4, 0⟩ "p" = some 0 := by simpa using seen
    refine ⟨by decide +kernel, s, ran, AList.ext entries, present, first, second, ?_⟩
    intro settled
    obtain ⟨home, _, exactly⟩ := settled.home "p" 0 present
    have one := first.symm.trans (exactly ⟨2, 0⟩)
    have two := second.symm.trans (exactly ⟨4, 0⟩)
    by_cases same : (⟨2, 0⟩ : GridPos) = home
    · simp [← same] at two
    · simp [same] at one
  · have observed : (Runs.run step { manager := twoPlayers } racingLogout).map (fun s =>
        (s.calls.entries, s.manager.players.lookup "p", s.manager.stored ⟨2, 0⟩ "p")) = some ([], none, some 0) := by
      decide +kernel
    obtain ⟨s, ran, seen⟩ := Option.map_eq_some_iff.mp observed
    obtain ⟨entries, missing, there⟩ : s.calls.entries = [] ∧ s.manager.players.lookup "p" = none ∧
        s.manager.stored ⟨2, 0⟩ "p" = some 0 := by simpa using seen
    refine ⟨by decide +kernel, s, ran, AList.ext entries, missing, there, ?_⟩
    intro settled
    have nowhere := settled.absent "p" missing ⟨2, 0⟩
    rw [there] at nowhere
    cases nowhere

end Server

end MmoServer.Sync
