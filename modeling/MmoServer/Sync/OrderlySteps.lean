import MmoServer.Sync.Orderly

set_option autoImplicit false

namespace MmoServer.Sync

open Aoi PlayerStateManager

namespace Server

variable (s : Server) (call : Nat) (id : String) (now : Int) (after : Server) (m : PlayerStateManager) (player : PlayerRef)

theorem local_refl (inside : m.aoiManager.HasGrid (m.position player)) (counted : m.aoiManager.Counted) : Local m m player :=
  ⟨rfl, rfl, fun _ _ => rfl, rfl, inside, fun _ _ _ => rfl, counted⟩

section

variable (grid : GridPos) (inside : m.aoiManager.HasGrid (m.position player)) (counted : m.aoiManager.Counted)

include inside counted

theorem local_leave : Local m { m with aoiManager := m.aoiManager.leave m.heap.view grid player } player where
  scene := AOIManager.leave_scene _ _ _ _
  players := rfl
  heap := fun _ _ => rfl
  ID := rfl
  inside := by simpa using inside
  grids := by
    intro place id different
    simp [stored, different]
  counted := AOIManager.leave_counted _ _ _ _ rfl counted

theorem local_enter (absent : m.stored grid (m.heap player).ID = none) :
    Local m { m with aoiManager := m.aoiManager.enter m.heap.view grid player } player where
  scene := AOIManager.enter_scene _ _ _ _
  players := rfl
  heap := fun _ _ => rfl
  ID := rfl
  inside := by simpa using inside
  grids := by
    intro place id different
    simp [stored, different]
  counted := AOIManager.enter_counted _ _ _ _ rfl absent counted

end

theorem local_store (target : Position) (now : Int) (inside : m.aoiManager.HasGrid target) (counted : m.aoiManager.Counted) :
    Local m (m.storePosition player target now) player where
  scene := rfl
  players := rfl
  heap := by
    intro other different
    simp [storePosition, storeUpdate, different]
  ID := by simp [storePosition, storeUpdate]
  inside := by simpa [storePosition, storeUpdate, position] using inside
  grids := fun _ _ _ => rfl
  counted := counted

theorem at_leave (grid : GridPos) (there : m.At player (some grid)) :
    PlayerStateManager.At { m with aoiManager := m.aoiManager.leave m.heap.view grid player } player none := by
  intro place
  have before := there place
  simp only [stored, AOIManager.stored_leave, view_id, and_true]
  by_cases left : place = grid
  · simp [left]
  · simpa [left] using before

theorem at_enter (grid : GridPos) (nowhere : m.At player none) :
    PlayerStateManager.At { m with aoiManager := m.aoiManager.enter m.heap.view grid player } player (some grid) := by
  intro place
  have before := nowhere place
  simp only [stored, AOIManager.stored_enter, view_id, and_true, Option.some_inj]
  by_cases entered : place = grid
  · simp [entered]
  · simpa [entered] using before

theorem advance_leads (current : Call) (now : Int) (orderly : s.Orderly) (here : s.calls.lookup call = some current)
    (alone : ∀ other second, s.calls.lookup other = some second → second.player = current.player → other ≠ call → second.started = false)
    (keeps : ∀ player playerID, current ≠ .deleting player playerID) :
    Local s.manager (current.advance now s.manager).1 current.player ∧
      Leads current (current.advance now s.manager).1 (current.advance now s.manager).2 := by
  have present := orderly.registered call current here
  have inside := orderly.inside _ _ present
  have unchanged := local_refl s.manager current.player inside orderly.counted
  have fits := orderly.fits call current here
  have held := orderly.held call current here
  cases current with
  | moving player target =>
    have resting := orderly.quiet _ _ present (by
      intro other second found shared
      by_cases same : other = call
      · rw [same, here, Option.some_inj] at found
        rw [← found]
        rfl
      · exact alone other second found shared same)
    exact ⟨unchanged, rfl, rfl, ⟨fits, rfl⟩, rfl, resting⟩
  | storing player target old =>
    obtain ⟨targetInside, rfl⟩ := fits
    have change := local_store s.manager player target now targetInside orderly.counted
    refine ⟨change, rfl, rfl, inside, rfl, ?_⟩
    intro grid
    rw [show (Call.storing player target (s.manager.position player)).player = player from rfl]
    exact change.ID ▸ held rfl grid
  | updating player old =>
    have grids := AOIManager.grids_to_change_inside s.manager.heap.view s.manager.aoiManager player old fits inside
    rw [view_position] at grids
    by_cases same : s.manager.aoiManager.cell old = s.manager.aoiManager.cell (s.manager.position player)
    · have taken : (Call.updating player old).advance now s.manager = (s.manager, none) := by
        rw [if_pos same] at grids
        simp only [Call.advance, grids]
      rw [taken]
      refine ⟨unchanged, rfl, ?_⟩
      have there := held rfl
      rwa [Call.holds, same] at there
    · have taken : (Call.updating player old).advance now s.manager =
          (s.manager, some (.leaving player (s.manager.aoiManager.cell old)
            (s.manager.aoiManager.cell (s.manager.position player)))) := by
        rw [if_neg same] at grids
        simp only [Call.advance, grids]
      rw [taken]
      exact ⟨unchanged, rfl, rfl, ⟨rfl, same⟩, rfl, held rfl⟩
  | leaving player oldGrid newGrid =>
    refine ⟨local_leave _ _ _ inside orderly.counted, rfl, rfl, ?_, rfl, at_leave _ player oldGrid (held rfl)⟩
    simpa [Call.Fits, Call.advance] using fits.1
  | entering player newGrid =>
    have nowhere : s.manager.At player none := held rfl
    have home : newGrid = s.manager.aoiManager.cell (s.manager.position player) := fits
    subst home
    exact ⟨local_enter _ _ _ inside orderly.counted (nowhere _), rfl, at_enter s.manager player _ nowhere⟩
  | removing player playerID =>
    have taken : (Call.removing player playerID).advance now s.manager =
        (s.manager, some (.clearing player playerID (s.manager.aoiManager.cell (s.manager.position player)))) := by
      have found := s.manager.aoiManager.get_grid_inside (s.manager.position player) inside
      simp only [Call.advance, found]
    rw [taken]
    exact ⟨unchanged, rfl, rfl, ⟨fits, rfl⟩, rfl, held rfl⟩
  | clearing player playerID grid =>
    exact ⟨local_leave _ _ _ inside orderly.counted, rfl, rfl, fits.1, rfl, at_leave _ player grid (held rfl)⟩
  | deleting player playerID => exact absurd rfl (keeps player playerID)

theorem orderly_delete (playerID : String) (orderly : s.Orderly) (here : s.calls.lookup call = some (.deleting player playerID)) :
    (s.proceed call (s.manager.forget playerID) none).Orderly := by
  have own : (s.manager.heap player).ID = playerID := orderly.fits call _ here
  have nowhere : s.manager.At player none := orderly.held call _ here rfl
  have present : s.manager.players.lookup playerID = some player := own ▸ orderly.registered call _ here
  have others : ∀ other second, (s.proceed call (s.manager.forget playerID) none).calls.lookup other = some second →
      s.calls.lookup other = some second ∧ other ≠ call ∧ second.player ≠ player := by
    intro other second found
    rw [proceed_lookup] at found
    by_cases same : other = call
    · simp [same] at found
    · rw [if_neg same] at found
      exact ⟨found, same, fun shared => same (orderly.exclusive call _ other second here found shared.symm (.inr rfl)).symm⟩
  have players : ∀ id reference, (s.manager.forget playerID).players.lookup id = some reference →
      s.manager.players.lookup id = some reference ∧ reference ≠ player := by
    intro id reference found
    simp only [forget, AList.lookup_erase_eq] at found
    by_cases same : id = playerID
    · simp [same] at found
    · rw [if_neg same] at found
      refine ⟨found, fun shared => same ?_⟩
      rw [← orderly.own id reference found, shared, own]
  exact {
    own := fun id reference found => orderly.own id reference (players id reference found).1
    inside := fun id reference found => orderly.inside id reference (players id reference found).1
    absent := by
      intro id missing grid
      by_cases same : id = playerID
      · rw [same, ← own]
        exact nowhere grid
      · simp only [proceed_manager, forget, AList.lookup_erase_eq, if_neg same] at missing
        exact orderly.absent id missing grid
    counted := orderly.counted
    registered := by
      intro other second found
      obtain ⟨found, _, different⟩ := others other second found
      have registered := orderly.registered other second found
      simp only [proceed_manager, forget, AList.lookup_erase_eq]
      rw [if_neg]
      · exact registered
      · intro same
        rw [same, present, Option.some_inj] at registered
        exact different registered.symm
    fits := fun other second found =>
      second.fits_frame s.manager _ rfl rfl (orderly.fits other second (others other second found).1)
    exclusive := fun first one second two foundOne foundTwo =>
      orderly.exclusive first one second two (others first one foundOne).1 (others second two foundTwo).1
    locked := by
      intro other second found unregisters
      obtain ⟨found, different, _⟩ := others other second found
      have taken := orderly.locked call _ here rfl
      rw [orderly.locked other second found unregisters, Option.some_inj] at taken
      exact absurd taken different
    held := fun other second found started => orderly.held other second (others other second found).1 started
    quiet := by
      intro id reference found idle
      obtain ⟨found, different⟩ := players id reference found
      refine orderly.quiet id reference found ?_
      intro other second present shared
      refine idle other second ?_ shared
      rw [proceed_lookup, if_neg]
      · exact present
      · intro same
        rw [same, here, Option.some_inj] at present
        exact different (shared.symm.trans (congrArg Call.player present.symm)) }

theorem orderly_begin (first : Call) (holder : Option Nat) (orderly : s.Orderly) (fresh : s.calls.lookup call = none)
    (registered : s.manager.players.lookup (s.manager.heap first.player).ID = some first.player) (fits : first.Fits s.manager)
    (clear : ∀ other second, s.calls.lookup other = some second → second.player = first.player →
      first.started = false ∧ second.unregisters = false)
    (unlocked : ∀ other second, s.calls.lookup other = some second → second.unregisters = false)
    (locks : first.unregisters → first.started ∧ holder = some call)
    (held : first.started → s.manager.At first.player (first.holds s.manager)) :
    Orderly { s with calls := s.calls.insert call first, holder := holder } := by
  have split : ∀ other second, (s.calls.insert call first).lookup other = some second →
      (other = call ∧ second = first) ∨ s.calls.lookup other = some second := by
    intro other second present
    rw [AList.lookup_insert_eq] at present
    split at present
    · exact .inl ⟨‹_›, (Option.some_inj.mp present).symm⟩
    · exact .inr present
  exact {
    own := orderly.own
    inside := orderly.inside
    absent := orderly.absent
    counted := orderly.counted
    registered := by
      intro other second present
      rcases split other second present with ⟨_, rfl⟩ | old
      · exact registered
      · exact orderly.registered other second old
    fits := by
      intro other second present
      rcases split other second present with ⟨_, rfl⟩ | old
      · exact fits
      · exact orderly.fits other second old
    exclusive := by
      intro one current two second foundOne foundTwo shared clash
      rcases split one current foundOne with ⟨rfl, rfl⟩ | oldOne <;> rcases split two second foundTwo with ⟨rfl, rfl⟩ | oldTwo
      · rfl
      · obtain ⟨idle, _⟩ := clear two second oldTwo shared.symm
        rcases clash with both | unregisters
        · simp [idle] at both
        · simp [idle] at locks
          simp [locks] at unregisters
      · obtain ⟨idle, calm⟩ := clear one current oldOne shared
        rcases clash with both | unregisters
        · simp [idle] at both
        · simp [calm] at unregisters
      · exact orderly.exclusive one current two second oldOne oldTwo shared clash
    locked := by
      intro other second present unregisters
      rcases split other second present with ⟨rfl, rfl⟩ | old
      · exact (locks unregisters).2
      · simp [unlocked other second old] at unregisters
    held := by
      intro other second present started
      rcases split other second present with ⟨_, rfl⟩ | old
      · exact held started
      · exact orderly.held other second old started
    quiet := by
      intro id player found idle
      refine orderly.quiet id player found ?_
      intro other second present shared
      refine idle other second ?_ shared
      rw [AList.lookup_insert_eq, if_neg]
      · exact present
      · intro same
        rw [same, fresh] at present
        cases present }

theorem Orderly.unlocked {s : Server} (orderly : s.Orderly) (free : s.holder = none) (other : Nat) (second : Call)
    (present : s.calls.lookup other = some second) : second.unregisters = false := by
  by_contra unregisters
  rw [Bool.not_eq_false] at unregisters
  have holder := orderly.locked other second present unregisters
  rw [free] at holder
  cases holder

theorem begun (start : PlayerRef → Server) (after : Server)
    (taken : (if s.calls.lookup call ≠ none ∨ s.holder ≠ none then none else
      match s.manager.players.lookup id with | none => some s | some player => some (start player)) = some after) :
    after = s ∨ ∃ player, s.calls.lookup call = none ∧ s.holder = none ∧ s.manager.players.lookup id = some player ∧
      after = start player := by
  split at taken
  · cases taken
  · rename_i ready
    obtain ⟨fresh, free⟩ : s.calls.lookup call = none ∧ s.holder = none := by simpa using ready
    cases found : s.manager.players.lookup id with
    | none =>
      rw [found] at taken
      cases taken
      exact .inl rfl
    | some player =>
      rw [found] at taken
      cases taken
      exact .inr ⟨player, fresh, free, rfl, rfl⟩

theorem orderly_begin_move (target : Position) (after : Server) (orderly : s.Orderly) (inside : s.manager.aoiManager.HasGrid target)
    (taken : s.step (.beginMove call id target) = some after) : after.Orderly := by
  rcases begun s call id _ after taken with rfl | ⟨player, fresh, free, found, rfl⟩
  · exact orderly
  · have unlocked := orderly.unlocked free
    exact orderly_begin s call (.moving player target) s.holder orderly fresh
      (by rw [Call.player, orderly.own id player found, found]) inside
      (fun other second present _ => ⟨rfl, unlocked other second present⟩) unlocked
      (fun never => by cases never) (fun never => by cases never)

theorem orderly_begin_unregister (orderly : s.Orderly) (apart : s.Apart (.beginUnregister call id))
    (taken : s.step (.beginUnregister call id) = some after) : after.Orderly := by
  rcases begun s call id _ after taken with rfl | ⟨player, fresh, free, found, rfl⟩
  · exact orderly
  · have own := orderly.own id player found
    have lonely : ∀ other second, s.calls.lookup other = some second → second.player ≠ player := by
      intro other second present shared
      exact apart second ((AList.mem_values _ _).mpr ⟨other, present⟩) (shared ▸ own)
    exact orderly_begin s call (.removing player id) (some call) orderly fresh
      (by rw [Call.player, own, found]) own
      (fun other second present shared => absurd shared (lonely other second present))
      (orderly.unlocked free) (fun _ => ⟨rfl, rfl⟩)
      (fun _ => orderly.quiet id player found
        (fun other second present shared => absurd shared (lonely other second present)))

theorem orderly_advance (orderly : s.Orderly) (apart : s.Apart (.advance call now)) (taken : s.step (.advance call now) = some after) :
    after.Orderly := by
  cases here : s.calls.lookup call with
  | none =>
    simp only [step, here] at taken
    cases taken
  | some current =>
    simp only [step, here, Option.some_inj] at taken
    subst taken
    have alone : ∀ other second, s.calls.lookup other = some second → second.player = current.player →
        other ≠ call → second.started = false := by
      intro other second present shared different
      by_cases started : current.started = false
      · exact apart current here started second ((AList.mem_values _ _).mpr ⟨other, present⟩) shared
      · by_contra busy
        rw [Bool.not_eq_false] at started busy
        exact different (orderly.exclusive other second call current present here shared (.inl ⟨busy, started⟩))
    by_cases deletes : ∃ player playerID, current = .deleting player playerID
    · obtain ⟨player, playerID, rfl⟩ := deletes
      exact orderly_delete s call player playerID orderly here
    · obtain ⟨change, leads⟩ := advance_leads s call current now orderly here alone
        (fun player playerID same => deletes ⟨player, playerID, same⟩)
      exact orderly_proceed orderly here alone change leads

theorem step_orderly (action : Action) (after : Server) (orderly : s.Orderly) (allowed : s.InSceneMove action ∧ s.Apart action)
    (taken : s.step action = some after) : after.Orderly := by
  cases action with
  | beginMove call id target => exact orderly_begin_move s call id target after orderly allowed.1 taken
  | beginUnregister call id => exact orderly_begin_unregister s call id after orderly allowed.2 taken
  | advance call now => exact orderly_advance s call now after orderly allowed.2 taken

end Server

end MmoServer.Sync
